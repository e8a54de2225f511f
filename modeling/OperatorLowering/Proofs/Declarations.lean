import OperatorLowering.Scope

/-!
Histories of declarations. The last declaration of a variable decides its static type. Whether the
variable may be null is decided by all its declarations together: a declaration replaces the type of
an earlier one but keeps its mark that the variable is never null.
-/

namespace OperatorLowering

namespace Scope

/-- A call that tells a scope about variables. -/
inductive Declaration where
  | plain (name : String) (type : TypeName)
  | nonNull (name : String) (type : TypeName)
  | params (ps : List Param)
  deriving Repr, DecidableEq, Inhabited

def after (s : Scope) : Declaration → Scope
  | .plain name type => s.declare name type
  | .nonNull name type => s.declareNonNull name type
  | .params ps => s.declareParams ps

def afterAll (s : Scope) (history : List Declaration) : Scope := history.foldl after s

/-- The variables that a call declares, in order, each as a parameter. -/
def Declaration.asParams : Declaration → List Param
  | plain name type => [⟨⟨name, .zero⟩, ⟨type, .zero⟩, false⟩]
  | nonNull name type => [⟨⟨name, .zero⟩, ⟨type, .zero⟩, true⟩]
  | params ps => ps

def declared (history : List Declaration) : List Param := history.flatMap Declaration.asParams

/-- The last declaration of a variable. -/
def lastOf? (x : String) (ps : List Param) : Option Param := ps.reverse.find? (·.name.node == x)

/-- If any declaration of the variable says that it is never null, the last one does. -/
def MarkIsCurrent (x : String) (ps : List Param) : Prop :=
  (∃ p ∈ ps, p.name.node = x ∧ p.nonNull = true) →
    ∃ last, lastOf? x ps = some last ∧ last.nonNull = true

variable {s : Scope} {x : String} {ps : List Param}

theorem after_eq_declareParams (call : Declaration)
    : s.after call = s.declareParams call.asParams := by
  cases call <;> rfl

theorem afterAll_eq_declareParams (history : List Declaration)
    : s.afterAll history = s.declareParams (declared history) := by
  unfold afterAll declareParams declared
  rw [List.foldl_flatMap]
  congr
  funext s call
  apply after_eq_declareParams

theorem lookup_declareParam (p : Param)
    : (s.declareParam p).variableTypes.lookup x =
        if p.name.node = x then some p.type.node else s.variableTypes.lookup x := by
  have : (s.declareParam p).variableTypes = (p.name.node, p.type.node) :: s.variableTypes := by
    unfold declareParam
    split <;> rfl
  rw [this, List.lookup_cons]
  by_cases h : p.name.node = x
  . simp [h]
  . have : (x == p.name.node) = false := beq_eq_false_iff_ne.mpr (Ne.symm h)
    simp [h, this]

theorem mem_nonNull_declareParam (p : Param)
    : x ∈ (s.declareParam p).nonNull ↔
        (p.name.node = x ∧ p.nonNull = true) ∨ x ∈ s.nonNull := by
  unfold declareParam
  split
  . next h => simp [declareNonNull, h, eq_comm]
  . next h => simp [declare, h]

theorem lookup_declareParams
    : (s.declareParams ps).variableTypes.lookup x =
        ((lastOf? x ps).map (·.type.node)).or (s.variableTypes.lookup x) := by
  unfold declareParams
  induction ps generalizing s with
  | nil => rfl
  | cons p ps ih =>
    rw [List.foldl_cons, ih, lookup_declareParam]
    by_cases h : p.name.node = x <;> simp [lastOf?, List.find?_append, h]

theorem mem_nonNull_declareParams
    : x ∈ (s.declareParams ps).nonNull ↔
        (∃ p ∈ ps, p.name.node = x ∧ p.nonNull = true) ∨ x ∈ s.nonNull := by
  unfold declareParams
  induction ps generalizing s with
  | nil => simp
  | cons p ps ih =>
    rw [List.foldl_cons, ih, mem_nonNull_declareParam]
    simp only [List.mem_cons, exists_eq_or_imp]
    rw [or_assoc, or_left_comm]

theorem lastOf?_toList : lastOf? x (lastOf? x ps).toList = lastOf? x ps := by
  unfold lastOf?
  cases h : ps.reverse.find? (·.name.node == x) with
  | none => rfl
  | some last =>
    have := List.find?_some h
    simp [this]

theorem isNonNull_var (span : Span) : s.isNonNull (.var span x) = true ↔ x ∈ s.nonNull := by
  simp [isNonNull]

theorem operandType?_congr {s' : Scope} {e : Expr} (htype : s.typeOf? e = s'.typeOf? e)
    (hnull : s.isNonNull e = s'.isNonNull e) : s.operandType? e = s'.operandType? e := by
  simp only [operandType?, operandOf, htype, hnull]

theorem isNonNull_eq_iff_markIsCurrent {start : Scope} (hstart : x ∉ start.nonNull)
    (ps : List Param) (span : Span)
    : (start.declareParams ps).isNonNull (.var span x) =
          (start.declareParams (lastOf? x ps).toList).isNonNull (.var span x) ↔
        MarkIsCurrent x ps := by
  rw [Bool.eq_iff_iff, isNonNull_var, isNonNull_var, mem_nonNull_declareParams,
    mem_nonNull_declareParams]
  simp only [hstart, or_false, Option.mem_toList]
  constructor
  . intro h hmarked
    obtain ⟨last, hlast, -, hmark⟩ := h.mp hmarked
    exact ⟨last, hlast, hmark⟩
  . intro hcurrent
    constructor
    . intro hmarked
      obtain ⟨last, hlast, hmark⟩ := hcurrent hmarked
      have hname := List.find?_some hlast
      exact ⟨last, hlast, by simpa using hname, hmark⟩
    . rintro ⟨last, hlast, hname, hmark⟩
      have hmem := List.mem_of_find?_eq_some hlast
      exact ⟨last, List.mem_reverse.mp hmem, hname, hmark⟩

end Scope

open Scope

/--
After any history of declarations the static type of a variable is that of its last declaration, and
the variable is known never to be null if any declaration of it said so. So the variable is the
operand that its last declaration alone makes it exactly if that declaration keeps the mark.
-/
theorem last_declaration_decides_iff_mark_is_current (features : List (CallableId × TypeName))
    (history : List Declaration) (x : String) (span : Span)
    : let start : Scope := ⟨[], [], features⟩
      let full := start.afterAll history
      let alone := start.declareParams (lastOf? x (declared history)).toList
      full.typeOf? (.var span x) = alone.typeOf? (.var span x) ∧
        (full.isNonNull (.var span x) = true ↔
          ∃ p ∈ declared history, p.name.node = x ∧ p.nonNull = true) ∧
        ((full.operandType? (.var span x) = alone.operandType? (.var span x) ∧
            full.isNonNull (.var span x) = alone.isNonNull (.var span x)) ↔
          MarkIsCurrent x (declared history)) := by
  intro start full alone
  have hfull : full = start.declareParams (declared history) := afterAll_eq_declareParams history
  have htype : full.typeOf? (.var span x) = alone.typeOf? (.var span x) := by
    simp only [hfull, alone, typeOf?, lookup_declareParams, lastOf?_toList]
  have hstart : x ∉ start.nonNull := List.not_mem_nil
  have hmark := isNonNull_eq_iff_markIsCurrent hstart (declared history) span
  rw [← hfull] at hmark
  refine ⟨htype, ?_, ?_⟩
  . rw [isNonNull_var, hfull, mem_nonNull_declareParams]
    simp [start]
  . constructor
    . rintro ⟨-, hnull⟩
      exact hmark.mp hnull
    . intro hcurrent
      have hnull := hmark.mpr hcurrent
      exact ⟨operandType?_congr htype hnull, hnull⟩

-- The last declaration of three is about another type than the others, and marks the variable too.
theorem last_of_three_declarations_decides
    : let history : List Declaration :=
        [.plain "x" (.numeric (.atomic .long)),
          .params [⟨⟨"x", .zero⟩, ⟨.string, .zero⟩, true⟩,
            ⟨⟨"y", .zero⟩, ⟨.boolean, .zero⟩, false⟩],
          .nonNull "x" (.numeric (.boxed .int))]
      let full := Scope.empty.afterAll history
      let alone := Scope.empty.declareNonNull "x" (.numeric (.boxed .int))
      MarkIsCurrent "x" (declared history) ∧
        full.operandType? (.var .zero "x") = alone.operandType? (.var .zero "x") ∧
        full.isNonNull (.var .zero "x") = alone.isNonNull (.var .zero "x") := by
  intro history full alone
  have hcurrent : MarkIsCurrent "x" (declared history) := by
    intro _
    exact ⟨⟨⟨"x", .zero⟩, ⟨.numeric (.boxed .int), .zero⟩, true⟩, rfl, rfl⟩
  refine ⟨hcurrent, ?_⟩
  exact (last_declaration_decides_iff_mark_is_current [] history "x" .zero).2.2.mpr hcurrent

theorem redeclared_variable_keeps_stale_mark
    : let history : List Declaration :=
        [.nonNull "x" (.numeric (.atomic .long)), .plain "x" (.numeric (.boxed .int))]
      let full := Scope.empty.afterAll history
      let alone := Scope.empty.declare "x" (.numeric (.boxed .int))
      full.isNonNull (.var .zero "x") = true ∧ alone.isNonNull (.var .zero "x") = false ∧
        full.operandType? (.var .zero "x") = some ⟨.boxed .int, false⟩ ∧
        alone.operandType? (.var .zero "x") = some ⟨.boxed .int, true⟩ := by
  decide

end OperatorLowering
