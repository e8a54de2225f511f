import OperatorLowering.Proofs.ExitMonotonicity
import OperatorLowering.Proofs.LevelOverrides

/-!
Reports of unreachable code. A block has at most one, at the statement after its first definite
exit. When callables are added to the registry the first exit of a block, and with it the report,
can only move towards the start of the block.
-/

namespace OperatorLowering

variable {ρ : Type} [TypeResolution ρ]

theorem Registry.afterFirstExit_anti {small large : Registry}
    (h : ∀ id, small.isExit id = true → large.isExit id = true) (r : ρ) (statements : List Expr)
    : large.afterFirstExit r statements ≤ small.afterFirstExit r statements := by
  apply Nat.succ_le_succ
  apply List.findIdx_le_findIdx
  intro s _ hexit
  exact Expr.isDefiniteExit_mono (.of_registry h _) hexit

namespace Checker

/-- What a node adds to the reports of unreachable code when no levels are configured. -/
def unreachableReports (registry : Registry) (r : ρ) (n : Expr) : List Diagnostic :=
  (checkNode ⟨registry, .none⟩ n r).1.filter (·.code == .unreachableCode)

/-- There is one report, and it is about the statement at this position of the block. -/
def PointsAt (reports : List Diagnostic) (statements : List Expr) (position : Nat) : Prop :=
  ∃ s, statements[position]? = some s ∧ reports = [.unreachableCode s.span]

variable {registry : Registry} {d : Diagnostic} {span : Span} {r : ρ} {n : Expr}
  {statements : List Expr}

theorem emit_none (registry : Registry) (configurable : Bool) (d : Diagnostic)
    : emit ⟨registry, .none⟩ configurable d = [d] := by
  unfold emit
  split <;> rfl

theorem code_ne_of_mem_checkOperands {operator : Operator} {left : OperandType}
    {right : Option OperandType}
    (hd : d ∈ checkOperands ⟨registry, .none⟩ span operator left right)
    : d.code ≠ .unreachableCode := by
  unfold checkOperands at hd
  split at hd
  . next l hl =>
    split at hd
    . next issue hissue =>
      rw [emit_none, List.mem_singleton] at hd
      rw [hd]
      exact (Lowering.isOperatorIssue_resolve hl hissue).reachable
    . contradiction
  . next e _ =>
    rw [emit_none, List.mem_singleton] at hd
    rw [hd]
    exact e.isOperatorIssue_diagnostic.reachable

theorem code_ne_of_mem_checkSlot {slot : FeatureSlot}
    (hd : d ∈ checkSlot ⟨registry, .none⟩ span slot) : d.code ≠ .unreachableCode := by
  unfold checkSlot at hd
  split at hd
  . split at hd
    rw [emit_none, List.mem_singleton] at hd
    rw [hd]
    simp [discouragedDiagnostic, Diagnostic.withSpan, Diagnostic.ofCode]
  . contradiction

theorem code_ne_of_mem_checkNode (hblock : ∀ span statements, n ≠ .block span statements)
    (hd : d ∈ (checkNode ⟨registry, .none⟩ n r).1) : d.code ≠ .unreachableCode := by
  cases n with
  | block span statements => exact absurd rfl (hblock span statements)
  | binary span left op right =>
    simp only [checkNode, checkBinary] at hd
    split at hd
    . contradiction
    . split at hd
      . contradiction
      . exact code_ne_of_mem_checkOperands hd
  | negation | cast =>
    simp only [checkNode, checkUnary] at hd
    split at hd
    . dsimp only at hd
      exact code_ne_of_mem_checkOperands hd
    . contradiction
  | call => exact code_ne_of_mem_checkSlot hd
  | _ => contradiction

theorem unreachableReports_eq_nil (hblock : ∀ span statements, n ≠ .block span statements)
    : unreachableReports registry r n = [] := by
  apply List.filter_eq_nil_iff.mpr
  intro d hd
  simpa using code_ne_of_mem_checkNode hblock hd

variable [FixedSlots ρ]

theorem unreachableReports_block
    : unreachableReports registry r (.block span statements) =
        (statements[registry.afterFirstExit r statements]?.map fun s =>
          Diagnostic.unreachableCode s.span).toList := by
  simp only [unreachableReports, checkNode, checkBlock_eq]
  cases statements[registry.afterFirstExit r statements]? with
  | none => rfl
  | some s =>
    simp only [emit_none]
    rfl

theorem unreachableReports_ne_nil_iff
    : unreachableReports registry r (.block span statements) ≠ [] ↔
        registry.afterFirstExit r statements < statements.length := by
  simp [unreachableReports_block]

theorem pointsAt_afterFirstExit (h : registry.afterFirstExit r statements < statements.length)
    : PointsAt (unreachableReports registry r (.block span statements)) statements
        (registry.afterFirstExit r statements) := by
  refine ⟨_, List.getElem?_eq_getElem h, ?_⟩
  simp [unreachableReports_block, h]

theorem unreachableReports_of_slots_eq {r' : ρ}
    (h : TypeResolution.slots r = TypeResolution.slots r')
    : unreachableReports registry r = unreachableReports registry r' := by
  funext n
  by_cases hblock : ∃ span statements, n = .block span statements
  . obtain ⟨span, statements, rfl⟩ := hblock
    simp only [unreachableReports_block, Registry.afterFirstExit, ExitRules.ofResolver, h]
  . have hblock (span : Span) (statements : List Expr) : n ≠ .block span statements := by
      intro heq
      exact hblock ⟨span, statements, heq⟩
    rw [unreachableReports_eq_nil hblock, unreachableReports_eq_nil hblock]

-- The resolver changes from node to node, but what calls refer to stays the same.
theorem filter_checkNodes (es : List Expr)
    : (checkNodes ⟨registry, .none⟩ es r).1.filter (·.code == .unreachableCode) =
        es.flatMap (unreachableReports registry r) := by
  induction es generalizing r with
  | nil => rfl
  | cons e es ih =>
    simp only [checkNodes, List.filter_append, List.flatMap_cons]
    rw [ih, unreachableReports_of_slots_eq (slots_checkNode ⟨registry, .none⟩ r e)]
    rfl

end Checker

open Checker

/--
The reports of unreachable code about a tree are those about its nodes. Only blocks have any, at
most one each, and one if a statement follows the first exit. A block that has one still has one
when callables are added to the registry, at the same statement or an earlier one, but never at the
first.
-/
theorem unreachable_reports_move_towards_start (small large : Registry)
    (h : ∀ id, small.isExit id = true → large.isExit id = true) {ρ : Type} [TypeResolution ρ]
    [FixedSlots ρ] (r : ρ)
    : (∀ (registry : Registry) (e : Expr),
          (checkExpr ⟨registry, .none⟩ e r).1.filter (·.code == .unreachableCode) =
            e.nodes.flatMap (unreachableReports registry r)) ∧
        (∀ (registry : Registry) (n : Expr), (∀ span statements, n ≠ .block span statements) →
          unreachableReports registry r n = []) ∧
        ∀ (span : Span) (statements : List Expr),
          (∀ registry : Registry,
            (unreachableReports registry r (.block span statements)).length ≤ 1 ∧
              (unreachableReports registry r (.block span statements) ≠ [] ↔
                registry.afterFirstExit r statements < statements.length)) ∧
          (unreachableReports small r (.block span statements) ≠ [] →
            0 < large.afterFirstExit r statements ∧
              large.afterFirstExit r statements ≤ small.afterFirstExit r statements ∧
              PointsAt (unreachableReports small r (.block span statements)) statements
                (small.afterFirstExit r statements) ∧
              PointsAt (unreachableReports large r (.block span statements)) statements
                (large.afterFirstExit r statements)) := by
  refine ⟨?_, ?_, ?_⟩
  . intro registry e
    exact filter_checkNodes e.nodes
  . intro registry n hblock
    exact unreachableReports_eq_nil hblock
  . intro span statements
    refine ⟨?_, ?_⟩
    . intro registry
      refine ⟨?_, unreachableReports_ne_nil_iff⟩
      rw [unreachableReports_block]
      apply Option.length_toList_le
    . intro hreport
      have hsmall := unreachableReports_ne_nil_iff.mp hreport
      have hle := Registry.afterFirstExit_anti h r statements
      have hlarge := Nat.lt_of_le_of_lt hle hsmall
      exact ⟨Nat.succ_pos _, hle, pointsAt_afterFirstExit hsmall, pointsAt_afterFirstExit hlarge⟩

/-- `if (flag) stop() else return; { stop(); x }; return; x` -/
def stopOrReturn : List Expr :=
  let stop (span : Span) : Expr := .call span none (.linked ⟨"my.Capacity.stop"⟩) []
  [.conditional ⟨0, 5⟩ (.var .zero "flag") (stop .zero) (some (.returnValue .zero none)),
    .block ⟨10, 15⟩ [stop ⟨11, 12⟩, .var ⟨13, 14⟩ "x"],
    .returnValue ⟨20, 25⟩ none,
    .var ⟨30, 35⟩ "x"]

-- With `stop` the first statement is an exit as well, and the inner block gets a report of its own.
theorem stopOrReturn_report_moves_from_last_to_second
    : let small := Registry.builtin
      let large := small.markExit ⟨"my.Capacity.stop"⟩
      let block : Expr := .block .zero stopOrReturn
      let r : Resolver := .ofScope .empty
      ((checkExpr ⟨small, .none⟩ block r).1.map (·.span) = [some ⟨30, 35⟩]) ∧
        ((checkExpr ⟨large, .none⟩ block r).1.map (·.span) = [some ⟨10, 15⟩, some ⟨13, 14⟩]) ∧
        unreachableReports small r block ≠ [] ∧
        0 < large.afterFirstExit r stopOrReturn ∧
        large.afterFirstExit r stopOrReturn ≤ small.afterFirstExit r stopOrReturn ∧
        PointsAt (unreachableReports small r block) stopOrReturn
          (small.afterFirstExit r stopOrReturn) ∧
        PointsAt (unreachableReports large r block) stopOrReturn
          (large.afterFirstExit r stopOrReturn) := by
  intro small large block r
  have hexits (id : CallableId) (hid : small.isExit id = true) : large.isExit id = true := by
    simp only [Registry.isExit, large, Registry.markExit, List.contains_cons, Bool.or_eq_true]
    exact .inr hid
  have hreport : unreachableReports small r block ≠ [] := by decide
  refine ⟨by decide, by decide, hreport, ?_⟩
  exact ((unreachable_reports_move_towards_start small large hexits r).2.2 .zero stopOrReturn).2
    hreport

end OperatorLowering
