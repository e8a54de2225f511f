import OperatorLowering.Proofs.Execution

/-!
Breaks and endless loops. The search for breaks finds those that stand in no inner loop, and no
other break can leave an expression. So a loop on `true` without such a break in its body never
completes.
-/

namespace OperatorLowering

namespace Expr

open Outcomes

def isLoop : Expr → Bool
  | whileLoop .. | doWhileLoop .. => true
  | _ => false

/-- There is a break in the expression with no loop of the expression around it. -/
inductive HasOpenBreak : Expr → Prop where
  | here (span : Span) : HasOpenBreak (breakLoop span)
  | inside {e c : Expr} : e.isLoop = false → c ∈ e.children → HasOpenBreak c → HasOpenBreak e

variable {rules : ExitRules} {e : Expr}

theorem breaksOut_of_hasOpenBreak (h : e.HasOpenBreak) : e.breaksOut = true := by
  induction h with
  | here => rfl
  | inside hloop hc _ ih =>
    rw [breaksOut_eq_any_children]
    split
    . rfl
    . contradiction
    . contradiction
    . exact List.any_eq_true.mpr ⟨_, hc, ih⟩

theorem hasOpenBreak_of_breaksOut (h : e.breaksOut = true) : e.HasOpenBreak := by
  induction e using induction_children with
  | step e ih =>
    rw [breaksOut_eq_any_children] at h
    split at h
    . apply HasOpenBreak.here
    . contradiction
    . contradiction
    . next hwhile hdo =>
      obtain ⟨c, hc, h⟩ := List.any_eq_true.mp h
      have hloop : e.isLoop = false := by
        cases e with
        | whileLoop => exact absurd rfl (hwhile _ _ _)
        | doWhileLoop => exact absurd rfl (hdo _ _ _)
        | _ => rfl
      exact .inside hloop hc (ih c hc h)

theorem not_outcomes_normal_of_endless {span literal : Span} {body : Expr}
    (hbody : body.breaksOut = false)
    : ¬ (whileLoop span (boolLit literal true) body).outcomes rules .normal := by
  apply not_whileDo_normal
  . rfl
  . simp [outcomes, only]
  . intro hbroke
    rw [breaksOut_of_outcomes_broke hbroke] at hbody
    contradiction

end Expr

/--
Every break that can leave an expression is found by the search for breaks, which looks everywhere
but in inner loops. So a loop on `true` in whose body it finds none never completes.
-/
theorem unbroken_endless_loops_never_complete (rules : ExitRules)
    : (∀ b : Expr, b.outcomes rules .broke → b.breaksOut = true) ∧
        (∀ b : Expr, b.breaksOut = true ↔ b.HasOpenBreak) ∧
        ∀ (span literal : Span) (body : Expr), body.breaksOut = false →
          ¬ (Expr.whileLoop span (.boolLit literal true) body).outcomes rules .normal := by
  refine ⟨?_, ?_, ?_⟩
  . intro b h
    exact Expr.breaksOut_of_outcomes_broke h
  . intro b
    exact ⟨Expr.hasOpenBreak_of_breaksOut, Expr.breaksOut_of_hasOpenBreak⟩
  . intro span literal body hbody
    exact Expr.not_outcomes_normal_of_endless hbody

/-- `if (done) break` -/
def Expr.breakIfDone : Expr := .conditional .zero (.var .zero "done") (.breakLoop .zero) none

-- The breaks of the endless loop leave the loops in it; the other one leaves a call in a `try`.
theorem only_breaks_of_inner_loops_in_endless_loop
    : let attempt : Expr :=
        .tryCatch .zero (.call .zero none (.proxy "log") [.breakIfDone]) [] (some (.null .zero))
      let body : Expr :=
        .block .zero [.doWhileLoop .zero .breakIfDone (.var .zero "more"),
          .whileLoop .zero (.boolLit .zero true) (.breakLoop .zero)]
      attempt.outcomes Registry.builtin .broke ∧ attempt.breaksOut = true ∧ body.breaksOut = false ∧
        ¬ (Expr.whileLoop .zero (.boolLit .zero true) body).outcomes Registry.builtin .normal := by
  intro attempt body
  have hattempt : attempt.outcomes Registry.builtin .broke := by
    simp [attempt, Expr.breakIfDone, Expr.outcomes, Expr.outcomesOfAll, Expr.outcomesOfAny,
      Outcomes.finallyDo, Outcomes.catching, Outcomes.andThen, Outcomes.branch, Outcomes.only,
      Expr.mayBe]
  have hbody : body.breaksOut = false := by rfl
  obtain ⟨hfound, -, hendless⟩ := unbroken_endless_loops_never_complete Registry.builtin
  exact ⟨hattempt, hfound attempt hattempt, hbody, hendless .zero .zero body hbody⟩

end OperatorLowering
