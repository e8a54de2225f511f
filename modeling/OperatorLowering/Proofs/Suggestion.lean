import OperatorLowering.Numeric.Suggestion
import OperatorLowering.Proofs.Closest
import OperatorLowering.Proofs.Layout
import OperatorLowering.Proofs.QueryGrammar

/-!
Suggestions are the numeric type names nearest to what was written. How far off a name may be is
measured in bytes, so that a name with characters beyond ASCII may be answered by one that has
nothing in common with it.
-/

namespace OperatorLowering

namespace Text

section LastSegment

/-- The segment has no dot, and it is the whole name or all that follows a dot. -/
def IsLastSegment (name segment : String) : Prop :=
  '.' ∉ segment.toList ∧ (name = segment ∨ ∃ before, name = before ++ "." ++ segment)

theorem isLastSegment_lastSegment (name : String) : IsLastSegment name (lastSegment name) := by
  have hsplit := List.takeWhile_append_dropWhile (p := (· != '.')) (l := name.toList.reverse)
  have hfirst := List.head?_dropWhile_not (· != '.') name.toList.reverse
  unfold IsLastSegment lastSegment
  constructor
  . intro hdot
    rw [String.toList_ofList, List.mem_reverse] at hdot
    have := List.all_eq_true.mp List.all_takeWhile _ hdot
    contradiction
  . generalize name.toList.reverse.takeWhile (· != '.') = segment at hsplit
    cases hrest : name.toList.reverse.dropWhile (· != '.') with
    | nil =>
      left
      rw [hrest, List.append_nil] at hsplit
      rw [hsplit, List.reverse_reverse, String.ofList_toList]
    | cons c rest =>
      right
      rw [hrest] at hsplit hfirst
      obtain rfl : c = '.' := by simpa using hfirst
      refine ⟨String.ofList rest.reverse, ?_⟩
      apply String.toList_inj.mp
      rw [← List.reverse_inj, ← hsplit]
      simp

end LastSegment

theorem length_le_byteLength (cs : List Char) : cs.length ≤ byteLength cs := by
  induction cs with
  | nil => simp
  | cons c cs ih =>
    have := c.utf8Size_pos
    rw [List.length_cons, byteLength]
    omega

theorem byteLength_eq_length {cs : List Char} (h : ∀ c ∈ cs, c.toNat < 128)
    : byteLength cs = cs.length := by
  induction cs with
  | nil => rfl
  | cons c cs ih =>
    rw [List.forall_mem_cons] at h
    have hc : c.utf8Size = 1 := Char.utf8Size_eq_one_iff.mpr (Nat.le_of_lt_succ h.1)
    rw [byteLength, ih h.2, hc, List.length_cons, Nat.add_comm]

end Text

namespace NumericType

open Text

variable {segment : String} {narrow wide : Nat} {answer : Option String}

/--
The answer is the name of a type that no other one is nearer than, and it is within the bound. There
is no answer only if all types are farther away.
-/
inductive IsNearest (segment : String) (bound : Nat) : Option String → Prop where
  | found {t : NumericType} (hle : nameDistance segment t.name ≤ bound)
    (hnearest : ∀ other : NumericType,
      nameDistance segment t.name ≤ nameDistance segment other.name)
    : IsNearest segment bound (some t.name)
  | absent (hfar : ∀ t : NumericType, bound < nameDistance segment t.name)
    : IsNearest segment bound none

/-- Some type has a name within the bound. -/
def IsNear (segment : String) (bound : Nat) : Prop :=
  ∃ t : NumericType, nameDistance segment t.name ≤ bound

/-- A third of the characters may be wrong, and always one. -/
def characterBound (segment : String) : Nat := max 1 (segment.length / 3)

/-- A third of the bytes may be wrong, and always one. -/
def byteBound (segment : String) : Nat := max 1 (segment.utf8ByteSize / 3)

theorem characterBound_le_byteBound (segment : String)
    : characterBound segment ≤ byteBound segment := by
  have := length_le_byteLength segment.toList
  rw [byteLength_toList, String.length_toList] at this
  unfold characterBound byteBound
  omega

theorem byteBound_eq_characterBound (h : ∀ c ∈ segment.toList, c.toNat < 128)
    : byteBound segment = characterBound segment := by
  have := byteLength_eq_length h
  rw [byteLength_toList, String.length_toList] at this
  rw [byteBound, characterBound, this]

theorem suggest?_eq (name : String)
    : suggest? name =
        closest (lastSegment name) (all.map NumericType.name) (byteBound (lastSegment name)) :=
  rfl

theorem isNearest_suggest? (name : String)
    : IsNearest (lastSegment name) (byteBound (lastSegment name)) (suggest? name) := by
  have hsuggest := suggest?_eq name
  generalize suggest? name = answer at hsuggest ⊢
  cases answer with
  | none =>
    apply IsNearest.absent
    intro t
    apply closest_eq_none_iff.mp hsuggest.symm
    exact List.mem_map_of_mem t.mem_all
  | some found =>
    obtain ⟨hfound, hle⟩ := closest_eq_some_iff.mp hsuggest.symm
    obtain ⟨t, -, rfl⟩ := List.mem_map.mp (List.argmin_mem hfound)
    apply IsNearest.found hle
    intro other
    apply List.le_of_mem_argmin _ hfound
    exact List.mem_map_of_mem other.mem_all

-- What is nearest within a wide bound is so within a narrow one unless it lies between the two.
theorem IsNearest.narrow_iff (h : IsNearest segment wide answer) (hle : narrow ≤ wide)
    : IsNearest segment narrow answer ↔ (IsNear segment wide → IsNear segment narrow) := by
  cases h with
  | @found t hwide hnearest =>
    constructor
    . intro h
      generalize hname : some t.name = answer at h
      cases h with
      | found hnarrow _ => exact fun _ => ⟨_, hnarrow⟩
      | absent => contradiction
    . intro hnear
      obtain ⟨other, hother⟩ := hnear ⟨t, hwide⟩
      exact .found (Nat.le_trans (hnearest other) hother) hnearest
  | absent hfar =>
    constructor
    . rintro - ⟨t, ht⟩
      have := hfar t
      omega
    . intro _
      apply IsNearest.absent
      intro t
      have := hfar t
      omega

end NumericType

open Text NumericType

/--
A suggestion is a type name nearest to the last segment of what was written, within a third of its
bytes. It is within a third of the characters as well exactly if no type name is near enough by the
one measure only, and so it is for every segment in ASCII.
-/
theorem suggestion_is_near_iff_measures_agree (name : String)
    : let segment := lastSegment name
      IsLastSegment name segment ∧ IsNearest segment (byteBound segment) (suggest? name) ∧
        (IsNearest segment (characterBound segment) (suggest? name) ↔
          (IsNear segment (byteBound segment) → IsNear segment (characterBound segment))) ∧
        ((∀ c ∈ segment.toList, c.toNat < 128) →
          IsNearest segment (characterBound segment) (suggest? name)) := by
  intro segment
  have hnearest := isNearest_suggest? name
  refine ⟨isLastSegment_lastSegment name, hnearest, ?_, ?_⟩
  . exact hnearest.narrow_iff (characterBound_le_byteBound segment)
  . intro hascii
    rw [← byteBound_eq_characterBound hascii]
    exact hnearest

theorem misspelt_long_is_suggested
    : let segment := "Lonng"
      (∀ c ∈ segment.toList, c.toNat < 128) ∧
        suggest? "java.lang.Lonng" = some "long" ∧
        IsNearest segment (characterBound segment) (some "long") := by
  have hascii : ∀ c ∈ "Lonng".toList, c.toNat < 128 := by simp
  have hsegment : lastSegment "java.lang.Lonng" = "Lonng" := by decide +kernel
  have hsuggest : suggest? "java.lang.Lonng" = some "long" := by decide +kernel
  have hnearest := (suggestion_is_near_iff_measures_agree "java.lang.Lonng").2.2.2
  rw [hsegment, hsuggest] at hnearest
  exact ⟨hascii, hsuggest, hnearest hascii⟩

-- Three characters of three bytes each, none of which the suggestion has.
theorem int_is_suggested_for_three_wide_characters
    : let segment := lastSegment "日本語"
      suggest? "日本語" = some "int" ∧ characterBound segment = 1 ∧
        (∀ t : NumericType, 3 ≤ nameDistance segment t.name) ∧
        ¬IsNearest segment (characterBound segment) (suggest? "日本語") := by
  intro segment
  have hbound : characterBound segment = 1 := by decide +kernel
  have hall : ∀ t ∈ NumericType.all, 3 ≤ editDistance (asciiLower segment) (asciiLower t.name) := by
    decide +kernel
  have hfar (t : NumericType) : 3 ≤ nameDistance segment t.name := by
    rw [nameDistance, ← editDistance_eq_plainDistance]
    exact hall t t.mem_all
  have hsuggest : suggest? "日本語" = some "int" := by decide +kernel
  refine ⟨hsuggest, hbound, hfar, ?_⟩
  rw [hsuggest, hbound]
  intro hnearest
  generalize hanswer : some "int" = answer at hnearest
  cases hnearest with
  | @found t hle _ =>
    have := hfar t
    omega
  | absent => cases hanswer

end OperatorLowering
