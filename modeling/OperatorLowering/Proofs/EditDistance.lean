import Mathlib.Order.Bounds.Basic
import Mathlib.Order.MinMax
import OperatorLowering.Text.EditDistance

/-!
The rows compute the edit distance. Every cell that is written holds the distance between two
prefixes as the plain recursion gives it, and that recursion gives the least number of edits that
turn one text into the other.
-/

namespace OperatorLowering

namespace Text

/-- A single character is inserted, deleted or replaced. -/
inductive Edit : List Char → List Char → Prop where
  | insert (l : List Char) (c : Char) (r : List Char) : Edit (l ++ r) (l ++ c :: r)
  | delete (l : List Char) (c : Char) (r : List Char) : Edit (l ++ c :: r) (l ++ r)
  | replace (l : List Char) (c d : Char) (r : List Char) : Edit (l ++ c :: r) (l ++ d :: r)

/-- So many edits, one after the other, turn the first text into the second. -/
inductive Edits : Nat → List Char → List Char → Prop where
  | nil (a : List Char) : Edits 0 a a
  | cons {n : Nat} {a b c : List Char} (h : Edit a b) (hrest : Edits n b c) : Edits (n + 1) a c

/-- The distance by recursion on the first characters of both texts. -/
def plainDistance : List Char → List Char → Nat
  | [], b => b.length
  | c :: a, [] => (c :: a).length
  | c :: a, d :: b =>
    min (min (plainDistance a b + if c = d then 0 else 1) (plainDistance a (d :: b) + 1))
      (plainDistance (c :: a) b + 1)
termination_by a b => a.length + b.length

variable {a a' b : List Char} {c d : Char} {m n : Nat}

section Edits

theorem Edit.prepend (h : Edit a b) (c : Char) : Edit (c :: a) (c :: b) := by
  cases h with
  | insert l x r => exact .insert (c :: l) x r
  | delete l x r => exact .delete (c :: l) x r
  | replace l x y r => exact .replace (c :: l) x y r

theorem Edit.symm (h : Edit a b) : Edit b a := by
  cases h with
  | insert l x r => exact .delete l x r
  | delete l x r => exact .insert l x r
  | replace l x y r => exact .replace l y x r

theorem Edit.reverse (h : Edit a b) : Edit a.reverse b.reverse := by
  cases h with
  | insert l x r => simpa using Edit.insert r.reverse x l.reverse
  | delete l x r => simpa using Edit.delete r.reverse x l.reverse
  | replace l x y r => simpa using Edit.replace r.reverse x y l.reverse

namespace Edits

theorem prepend (h : Edits n a b) (c : Char) : Edits n (c :: a) (c :: b) := by
  induction h with
  | nil a => exact .nil (c :: a)
  | cons h _ ih => exact .cons (h.prepend c) ih

theorem reverse (h : Edits n a b) : Edits n a.reverse b.reverse := by
  induction h with
  | nil a => exact .nil a.reverse
  | cons h _ ih => exact .cons h.reverse ih

theorem trans {c : List Char} (h : Edits m a b) (hrest : Edits n b c) : Edits (m + n) a c := by
  induction h with
  | nil => simpa using hrest
  | cons h _ ih =>
    rw [Nat.add_right_comm]
    exact .cons h (ih hrest)

theorem symm (h : Edits n a b) : Edits n b a := by
  induction h with
  | nil a => exact .nil a
  | cons h _ ih => exact ih.trans (.cons h.symm (.nil _))

protected theorem min (hm : Edits m a b) (hn : Edits n a b) : Edits (min m n) a b := by
  rcases min_choice m n with h | h
  . rw [h]
    exact hm
  . rw [h]
    exact hn

theorem zero_iff : Edits 0 a b ↔ a = b := by
  constructor
  . rintro ⟨⟩
    rfl
  . rintro rfl
    exact .nil a

theorem of_nil (b : List Char) : Edits b.length [] b := by
  induction b with
  | nil => exact .nil []
  | cons d b ih => exact .cons (.insert [] d []) (ih.prepend d)

end Edits

end Edits

section PlainDistance

@[simp]
theorem plainDistance_nil_left (b : List Char) : plainDistance [] b = b.length := by
  rw [plainDistance]

@[simp]
theorem plainDistance_nil_right (a : List Char) : plainDistance a [] = a.length := by
  cases a <;> rw [plainDistance]

theorem plainDistance_cons_cons (c d : Char) (a b : List Char)
    : plainDistance (c :: a) (d :: b) =
        min (min (plainDistance a b + if c = d then 0 else 1) (plainDistance a (d :: b) + 1))
          (plainDistance (c :: a) b + 1) := by
  rw [plainDistance]

-- An edit of the first characters comes before those of the rest, an insertion after them.
theorem edits_plainDistance (a b : List Char) : Edits (plainDistance a b) a b := by
  induction a, b using plainDistance.induct with
  | case1 b =>
    rw [plainDistance_nil_left]
    exact .of_nil b
  | case2 c a =>
    rw [plainDistance_nil_right]
    exact (Edits.of_nil (c :: a)).symm
  | case3 c a d b hrest hdelete hinsert =>
    have hfirst : Edits (plainDistance a b + if c = d then 0 else 1) (c :: a) (d :: b) := by
      split
      . next heq =>
        rw [heq]
        exact hrest.prepend d
      . exact .cons (.replace [] c d a) (hrest.prepend d)
    rw [plainDistance_cons_cons]
    apply Edits.min
    . exact hfirst.min (.cons (.delete [] c a) hdelete)
    . exact hinsert.trans (.cons (.insert [] d b) (.nil _))

theorem plainDistance_cons_left_le (c : Char) (a b : List Char)
    : plainDistance (c :: a) b ≤ plainDistance a b + 1 := by
  cases b with
  | nil => simp
  | cons d b =>
    rw [plainDistance_cons_cons]
    omega

theorem plainDistance_cons_right_le (d : Char) (a b : List Char)
    : plainDistance a (d :: b) ≤ plainDistance a b + 1 := by
  cases a with
  | nil => simp
  | cons c a =>
    rw [plainDistance_cons_cons]
    omega

theorem plainDistance_le_cons_left (c : Char) (a b : List Char)
    : plainDistance a b ≤ plainDistance (c :: a) b + 1 := by
  induction b with
  | nil =>
    simp only [plainDistance_nil_right, List.length_cons]
    omega
  | cons d b ih =>
    have := plainDistance_cons_right_le d a b
    rw [plainDistance_cons_cons]
    omega

theorem plainDistance_replace_le (c d : Char) (a b : List Char)
    : plainDistance (c :: a) b ≤ plainDistance (d :: a) b + 1 := by
  induction b with
  | nil => simp
  | cons x b ih =>
    rw [plainDistance_cons_cons, plainDistance_cons_cons]
    split <;> omega

theorem plainDistance_prepend_le (c : Char)
    (h : ∀ b, plainDistance a b ≤ plainDistance a' b + 1) (b : List Char)
    : plainDistance (c :: a) b ≤ plainDistance (c :: a') b + 1 := by
  induction b with
  | nil => simpa using h []
  | cons d b ih =>
    have hrest := h b
    have hdelete := h (d :: b)
    rw [plainDistance_cons_cons, plainDistance_cons_cons]
    omega

theorem plainDistance_append_le (l : List Char)
    (h : ∀ b, plainDistance a b ≤ plainDistance a' b + 1) (b : List Char)
    : plainDistance (l ++ a) b ≤ plainDistance (l ++ a') b + 1 := by
  induction l generalizing b with
  | nil => exact h b
  | cons c l ih => exact plainDistance_prepend_le c ih b

theorem Edit.plainDistance_le (h : Edit a a') (b : List Char)
    : plainDistance a b ≤ plainDistance a' b + 1 := by
  cases h with
  | insert l c r => exact plainDistance_append_le l (plainDistance_le_cons_left c r) b
  | delete l c r => exact plainDistance_append_le l (plainDistance_cons_left_le c r) b
  | replace l c d r => exact plainDistance_append_le l (plainDistance_replace_le c d r) b

theorem plainDistance_self (a : List Char) : plainDistance a a = 0 := by
  induction a with
  | nil => rw [plainDistance_nil_left, List.length_nil]
  | cons c a ih => simp [plainDistance_cons_cons, ih]

theorem Edits.plainDistance_le (h : Edits n a b) : plainDistance a b ≤ n := by
  induction h with
  | nil a => rw [plainDistance_self]
  | cons h _ ih =>
    have := h.plainDistance_le
    exact Nat.le_trans (this _) (Nat.succ_le_succ ih)

theorem isLeast_plainDistance (a b : List Char) : IsLeast {n | Edits n a b} (plainDistance a b) :=
  ⟨edits_plainDistance a b, fun _ h => h.plainDistance_le⟩

theorem plainDistance_reverse (a b : List Char)
    : plainDistance a.reverse b.reverse = plainDistance a b := by
  have hreverse : {n | Edits n a.reverse b.reverse} = {n | Edits n a b} := by
    ext n
    constructor
    . intro h
      simpa using Edits.reverse h
    . exact Edits.reverse
  have hleast := isLeast_plainDistance a.reverse b.reverse
  rw [hreverse] at hleast
  exact hleast.unique (isLeast_plainDistance a b)

theorem plainDistance_eq_zero_iff : plainDistance a b = 0 ↔ a = b := by
  constructor
  . intro h
    have hedits := edits_plainDistance a b
    rw [h] at hedits
    exact Edits.zero_iff.mp hedits
  . rintro rfl
    exact plainDistance_self a

theorem plainDistance_comm (a b : List Char) : plainDistance a b = plainDistance b a := by
  apply Nat.le_antisymm
  . exact (edits_plainDistance b a).symm.plainDistance_le
  . exact (edits_plainDistance a b).symm.plainDistance_le

theorem plainDistance_triangle (a b c : List Char)
    : plainDistance a c ≤ plainDistance a b + plainDistance b c :=
  ((edits_plainDistance a b).trans (edits_plainDistance b c)).plainDistance_le

end PlainDistance

section Rows

/--
The cells after the first one in the row of a prefix `p` of the first text, from the prefix `q` of
the second text on. The prefixes are reversed, so that the character read last comes first.
-/
def cellsAfter (p q : List Char) : List Char → List Nat
  | [] => []
  | d :: b => plainDistance p (d :: q) :: cellsAfter p (d :: q) b

/-- The distances of the reversed prefix `p` to every prefix of `b`. -/
def rowOf (p b : List Char) : List Nat := plainDistance p [] :: cellsAfter p [] b

theorem cellsAfter_nil (q b : List Char)
    : cellsAfter [] q b = List.range' (q.length + 1) b.length := by
  induction b generalizing q with
  | nil => rfl
  | cons d b ih => simp [cellsAfter, ih, List.range'_succ]

theorem rowOf_nil (b : List Char) : rowOf [] b = List.range (b.length + 1) := by
  simp [rowOf, cellsAfter_nil, List.range_eq_range', List.range'_succ]

theorem length_rowOf (p b : List Char) : (rowOf p b).length = b.length + 1 := by
  have hcells (q : List Char) : (cellsAfter p q b).length = b.length := by
    induction b generalizing q with
    | nil => rfl
    | cons d b ih => simp [cellsAfter, ih]
  rw [rowOf, List.length_cons, hcells]

theorem exists_eq_append_cellsAfter (p q b : List Char)
    : ∃ init, init.length = b.length ∧
        plainDistance p q :: cellsAfter p q b = init ++ [plainDistance p (b.reverse ++ q)] := by
  induction b generalizing q with
  | nil => exact ⟨[], rfl, rfl⟩
  | cons d b ih =>
    obtain ⟨init, hlength, hinit⟩ := ih (d :: q)
    refine ⟨plainDistance p q :: init, by simp [hlength], ?_⟩
    rw [cellsAfter, hinit, List.reverse_cons, List.append_assoc, List.singleton_append,
      List.cons_append]

end Rows

section Buffers

variable {cells : Array Nat} {l r : List Nat} {x : Nat}

theorem getD_length (h : cells.toList = l ++ x :: r) : cells.getD l.length 0 = x := by
  rw [Array.getD_eq_getD_getElem?, ← Array.getElem?_toList, h]
  simp

theorem toList_set_length (h : cells.toList = l ++ x :: r) (y : Nat)
    : (cells.setIfInBounds l.length y).toList = l ++ y :: r := by
  rw [Array.toList_setIfInBounds, h]
  simp

-- The induction is on what is left of the second text, whose reversed prefix `q` was read before.
-- Cells of the filled buffer that are still to come hold anything.
theorem toList_fillRow {previous current : Array Nat} {p q ds : List Char}
    {before done unused : List Nat} (c : Char)
    (hprevious : previous.toList = before ++ plainDistance p q :: cellsAfter p q ds)
    (hcurrent : current.toList = done ++ plainDistance (c :: p) q :: unused)
    (hbefore : before.length = done.length) (hunused : unused.length = ds.length)
    : (fillRow c previous done.length current ds).toList =
        done ++ plainDistance (c :: p) q :: cellsAfter (c :: p) q ds := by
  induction ds generalizing q current before done unused with
  | nil =>
    rw [List.length_eq_zero_iff.mp hunused] at hcurrent
    exact hcurrent
  | cons d ds ih =>
    obtain ⟨u, unused, rfl⟩ := List.exists_cons_of_length_eq_add_one hunused
    have hdiagonal : previous.getD done.length 0 = plainDistance p q := by
      rw [← hbefore]
      exact getD_length hprevious
    have hleft : current.getD done.length 0 = plainDistance (c :: p) q := getD_length hcurrent
    replace hprevious : previous.toList = (before ++ [plainDistance p q]) ++
        plainDistance p (d :: q) :: cellsAfter p (d :: q) ds := by
      simpa [cellsAfter] using hprevious
    replace hcurrent : current.toList = (done ++ [plainDistance (c :: p) q]) ++ u :: unused := by
      simpa using hcurrent
    have habove : previous.getD (done.length + 1) 0 = plainDistance p (d :: q) := by
      simpa [hbefore] using getD_length hprevious
    have hset := toList_set_length hcurrent (plainDistance (c :: p) (d :: q))
    rw [List.length_append, List.length_singleton] at hset
    have hrest := ih hprevious hset (by simp [hbefore]) (by simpa using hunused)
    rw [fillRow, hdiagonal, hleft, habove, ← plainDistance_cons_cons]
    simpa [cellsAfter] using hrest

theorem toList_fillRows {previous current : Array Nat} {p a b : List Char}
    (hprevious : previous.toList = rowOf p b) (hcurrent : current.size = b.length + 1)
    : (fillRows b p.length previous current a).toList = rowOf (a.reverse ++ p) b := by
  induction a generalizing p previous current with
  | nil => exact hprevious
  | cons c a ih =>
    obtain ⟨x, unused, hunused⟩ := List.exists_cons_of_length_eq_add_one hcurrent
    have hbefore : previous.toList = [] ++ plainDistance p [] :: cellsAfter p [] b := hprevious
    have hfirst : (current.setIfInBounds 0 (p.length + 1)).toList =
        [] ++ plainDistance (c :: p) [] :: unused := by
      rw [plainDistance_nil_right]
      exact toList_set_length (l := []) hunused (p.length + 1)
    have hlength : unused.length = b.length := by
      have := congrArg List.length hunused
      simpa [hcurrent] using this.symm
    have hfilled : (fillRow c previous 0 (current.setIfInBounds 0 (p.length + 1)) b).toList =
        rowOf (c :: p) b :=
      toList_fillRow c hbefore hfirst rfl hlength
    have hsize : previous.size = b.length + 1 := by
      rw [← Array.length_toList, hprevious, length_rowOf]
    rw [fillRows, List.reverse_cons, List.append_assoc, List.singleton_append]
    exact ih hfilled hsize

end Buffers

theorem editDistance_eq_plainDistance (a b : String)
    : editDistance a b = plainDistance a.toList b.toList := by
  unfold editDistance
  generalize a.toList = a, b.toList = b
  dsimp only
  split
  . next hempty =>
    rcases Bool.or_eq_true_iff.mp hempty with ha | hb
    . rw [List.isEmpty_iff.mp ha, plainDistance_nil_left, List.length_nil, Nat.zero_max]
    . rw [List.isEmpty_iff.mp hb, plainDistance_nil_right, List.length_nil, Nat.max_zero]
  . have hprevious : (List.range (b.length + 1)).toArray.toList = rowOf [] b := by
      rw [rowOf_nil]
    have hlast := toList_fillRows (a := a) hprevious (Array.size_replicate (v := 0))
    obtain ⟨init, hlength, hinit⟩ := exists_eq_append_cellsAfter (a.reverse ++ []) [] b
    rw [rowOf, hinit] at hlast
    have hcell := getD_length hlast
    rw [hlength, List.append_nil, List.append_nil, plainDistance_reverse] at hcell
    exact hcell

end Text

open Text

/--
The distance computed row by row is the least number of edits between two texts, which the plain
recursion gives too, and so it is a metric.
-/
theorem rows_compute_least_number_of_edits (a b : String)
    : IsLeast {n | Edits n a.toList b.toList} (editDistance a b) ∧
        editDistance a b = plainDistance a.toList b.toList ∧
        (editDistance a b = 0 ↔ a = b) ∧
        editDistance a b = editDistance b a ∧
        ∀ c : String, editDistance a c ≤ editDistance a b + editDistance b c := by
  refine ⟨?_, editDistance_eq_plainDistance a b, ?_, ?_, ?_⟩
  . rw [editDistance_eq_plainDistance]
    apply isLeast_plainDistance
  . rw [editDistance_eq_plainDistance, plainDistance_eq_zero_iff, String.toList_inj]
  . rw [editDistance_eq_plainDistance, editDistance_eq_plainDistance]
    apply plainDistance_comm
  . intro c
    simp only [editDistance_eq_plainDistance]
    apply plainDistance_triangle

end OperatorLowering
