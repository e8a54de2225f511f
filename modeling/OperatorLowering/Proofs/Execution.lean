import OperatorLowering.EarlyExit
import OperatorLowering.Proofs.Tree

/-!
Execution of expressions, as far as it decides how they end. Values are left out: a condition that
is not a literal may turn out either way, each time it is evaluated.
-/

namespace OperatorLowering

inductive Outcome where
  | normal | broke | returned | thrown | terminated | diverged
  deriving Repr, DecidableEq, Inhabited

namespace Outcome

/-- The outcome of a loop that one of its parts ends: a break goes no further than the loop. -/
def leaveLoop : Outcome → Outcome
  | broke => normal
  | o => o

end Outcome

/-- The outcomes that executions of a piece of code may have. -/
abbrev Outcomes := Outcome → Prop

namespace Outcomes

def only (outcome : Outcome) : Outcomes := fun o => o = outcome

/-- Completes or raises an exception. -/
def mayThrow : Outcomes := fun o => o = .normal ∨ o = .thrown

/-- The second piece is executed only if the first one completes. -/
def andThen (first second : Outcomes) : Outcomes := fun o =>
  (first o ∧ o ≠ .normal) ∨ (first .normal ∧ second o)

/-- One of two pieces, according to a condition that may have the values in `test`. -/
def branch (test : Bool → Bool) (yes no : Outcomes) : Outcomes := fun o =>
  (test true = true ∧ yes o) ∨ (test false = true ∧ no o)

/-- An exception may be caught by a handler, or by none. -/
def catching (body handlers : Outcomes) : Outcomes := fun o =>
  body o ∨ (body .thrown ∧ handlers o)

/--
A finalizer is executed unless the code before it diverges; if it does not complete, its own outcome
takes the place of the earlier one.
-/
def finallyDo (earlier finalizer : Outcomes) : Outcomes := fun o =>
  (earlier .diverged ∧ o = .diverged) ∨
    ∃ before, earlier before ∧ before ≠ .diverged ∧
      ((finalizer .normal ∧ o = before) ∨ (finalizer o ∧ o ≠ .normal))

inductive whileDo (test : Bool → Bool) (condition body : Outcomes) : Outcomes where
  | leaveCondition {o : Outcome} : condition o → o ≠ .normal →
      whileDo test condition body o.leaveLoop
  | done : condition .normal → test false = true → whileDo test condition body .normal
  | leaveBody {o : Outcome} : condition .normal → test true = true → body o → o ≠ .normal →
      whileDo test condition body o.leaveLoop
  | again {o : Outcome} : condition .normal → test true = true → body .normal →
      whileDo test condition body o → whileDo test condition body o
  /-- A round that may complete may do so forever. -/
  | forever : condition .normal → test true = true → body .normal →
      whileDo test condition body .diverged

def doWhile (test : Bool → Bool) (condition body : Outcomes) : Outcomes := fun o =>
  (∃ left, body left ∧ left ≠ .normal ∧ o = left.leaveLoop) ∨
    (body .normal ∧ whileDo test condition body o)

/-- A call of a callable; one that is registered as an exit does not come back. -/
def invoking (rules : ExitRules) (call : FeatureCall) : Outcomes
  | .normal => rules.isExitCall call = false
  | .thrown | .terminated | .diverged => True
  | .broke | .returned => False

end Outcomes

namespace Expr

/-- May the expression have this value as a condition? -/
def mayBe : Expr → Bool → Bool
  | boolLit _ value, b => value == b
  | _, _ => true

open Outcomes in
mutual

/-- The outcomes that executions of the expression may have. -/
def outcomes (rules : ExitRules) : Expr → Outcomes
  | intLit .. | floatLit .. | boolLit .. | stringLit .. | null _ | var .. => only .normal
  | unmodelled .. => mayThrow
  | binary _ left _ right => (left.outcomes rules).andThen ((right.outcomes rules).andThen mayThrow)
  | negation _ operand | cast _ operand _ => (operand.outcomes rules).andThen mayThrow
  | call _ none feature args =>
    (outcomesOfAll rules args).andThen (invoking rules ⟨none, feature, args⟩)
  | call _ (some receiver) feature args =>
    (receiver.outcomes rules).andThen
      ((outcomesOfAll rules args).andThen (invoking rules ⟨some receiver, feature, args⟩))
  | block _ statements => outcomesOfAll rules statements
  | conditional _ condition thenBranch none =>
    (condition.outcomes rules).andThen
      (branch condition.mayBe (thenBranch.outcomes rules) (only .normal))
  | conditional _ condition thenBranch (some elseBranch) =>
    (condition.outcomes rules).andThen
      (branch condition.mayBe (thenBranch.outcomes rules) (elseBranch.outcomes rules))
  | whileLoop _ condition body =>
    whileDo condition.mayBe (condition.outcomes rules) (body.outcomes rules)
  | doWhileLoop _ body condition =>
    doWhile condition.mayBe (condition.outcomes rules) (body.outcomes rules)
  | breakLoop _ => only .broke
  | returnValue _ none => only .returned
  | returnValue _ (some value) => (value.outcomes rules).andThen (only .returned)
  | throwValue _ value => (value.outcomes rules).andThen (only .thrown)
  | tryCatch _ body handlers none => catching (body.outcomes rules) (outcomesOfAny rules handlers)
  | tryCatch _ body handlers (some finalizer) =>
    (catching (body.outcomes rules) (outcomesOfAny rules handlers)).finallyDo
      (finalizer.outcomes rules)
  -- A lock that is null raises an exception.
  | synchronized _ lock body =>
    (lock.outcomes rules).andThen fun o => o = .thrown ∨ body.outcomes rules o
termination_by structural e => e

def outcomesOfAll (rules : ExitRules) : List Expr → Outcomes
  | [] => only .normal
  | e :: es => (e.outcomes rules).andThen (outcomesOfAll rules es)
termination_by structural es => es

def outcomesOfAny (rules : ExitRules) : List Expr → Outcomes
  | [] => fun _ => False
  | e :: es => fun o => e.outcomes rules o ∨ outcomesOfAny rules es o
termination_by structural es => es

end

end Expr

namespace Outcome

theorem leaveLoop_ne_broke (o : Outcome) : o.leaveLoop ≠ .broke := by
  cases o <;> decide

theorem eq_broke_of_leaveLoop_eq_normal {o : Outcome} (h : o.leaveLoop = .normal)
    (ho : o ≠ .normal) : o = .broke := by
  cases o with
  | normal => contradiction
  | broke => rfl
  | _ => simp [leaveLoop] at h

end Outcome

namespace Outcomes

variable {first second : Outcomes} {test : Bool → Bool} {condition body : Outcomes} {o : Outcome}

@[simp]
theorem andThen_normal : first.andThen second .normal ↔ first .normal ∧ second .normal := by
  simp [andThen]

theorem or_of_andThen (h : first.andThen second o) : first o ∨ second o := by
  rcases h with ⟨h, -⟩ | ⟨-, h⟩
  . exact .inl h
  . exact .inr h

theorem or_of_branch (h : branch test first second o) : first o ∨ second o := by
  rcases h with ⟨-, h⟩ | ⟨-, h⟩
  . exact .inl h
  . exact .inr h

theorem or_of_catching (h : first.catching second o) : first o ∨ second o := by
  rcases h with h | ⟨-, h⟩
  . exact .inl h
  . exact .inr h

theorem or_of_finallyDo (h : first.finallyDo second o) : first o ∨ second o := by
  rcases h with ⟨h, rfl⟩ | ⟨before, hbefore, -, ⟨-, rfl⟩ | ⟨h, -⟩⟩
  . exact .inl h
  . exact .inl hbefore
  . exact .inr h

theorem normal_of_finallyDo (h : first.finallyDo second .normal)
    : first .normal ∧ second .normal := by
  rcases h with ⟨-, h⟩ | ⟨before, hbefore, -, ⟨h, rfl⟩ | ⟨-, h⟩⟩
  . contradiction
  . exact ⟨hbefore, h⟩
  . contradiction

theorem ne_broke_of_whileDo (h : whileDo test condition body o) : o ≠ .broke := by
  induction h with
  | leaveCondition | leaveBody => apply Outcome.leaveLoop_ne_broke
  | again _ _ _ _ ih => exact ih
  | done | forever => simp

theorem ne_broke_of_doWhile (h : doWhile test condition body o) : o ≠ .broke := by
  rcases h with ⟨left, -, -, rfl⟩ | ⟨-, h⟩
  . apply Outcome.leaveLoop_ne_broke
  . exact ne_broke_of_whileDo h

-- A loop whose condition never fails is left by a break of its condition or its body only.
theorem not_whileDo_normal (htest : test false = false) (hcondition : ¬ condition .broke)
    (hbody : ¬ body .broke) : ¬ whileDo test condition body .normal := by
  intro h
  generalize hnormal : Outcome.normal = o at h
  induction h with
  | leaveCondition h hne =>
    have := Outcome.eq_broke_of_leaveLoop_eq_normal hnormal.symm hne
    subst this
    exact hcondition h
  | done _ hfalse => simp [htest] at hfalse
  | leaveBody _ _ h hne =>
    have := Outcome.eq_broke_of_leaveLoop_eq_normal hnormal.symm hne
    subst this
    exact hbody h
  | again _ _ _ _ ih => exact ih hnormal
  | forever => contradiction

theorem doWhile_normal_of_broke (h : body .broke) : doWhile test condition body .normal := by
  left
  exact ⟨.broke, h, by simp, rfl⟩

theorem not_doWhile_normal (hnormal : ¬ body .normal) (hbroke : ¬ body .broke)
    : ¬ doWhile test condition body .normal := by
  rintro (⟨left, h, hne, hleft⟩ | ⟨h, -⟩)
  . have := Outcome.eq_broke_of_leaveLoop_eq_normal hleft.symm hne
    subst this
    exact hbroke h
  . exact hnormal h

end Outcomes

namespace Expr

open Outcomes

variable {rules : ExitRules} {es : List Expr} {o : Outcome}

theorem outcomesOfAll_normal
    : outcomesOfAll rules es .normal ↔ ∀ e ∈ es, e.outcomes rules .normal := by
  induction es with
  | nil => simp [outcomesOfAll, only]
  | cons e es ih => simp [outcomesOfAll, ih]

theorem exists_outcomes_of_outcomesOfAll (h : outcomesOfAll rules es o) (ho : o ≠ .normal)
    : ∃ e ∈ es, e.outcomes rules o := by
  induction es with
  | nil =>
    simp only [outcomesOfAll, only] at h
    contradiction
  | cons e es ih =>
    rcases or_of_andThen h with h | h
    . exact ⟨e, by simp, h⟩
    . obtain ⟨e', he', h⟩ := ih h
      exact ⟨e', by simp [he'], h⟩

theorem outcomesOfAny_iff : outcomesOfAny rules es o ↔ ∃ e ∈ es, e.outcomes rules o := by
  induction es with
  | nil => simp [outcomesOfAny]
  | cons e es ih => simp [outcomesOfAny, ih]

theorem exists_children_broke {e : Expr} (h : e.outcomes rules .broke)
    (hbreak : ∀ span, e ≠ breakLoop span) : ∃ c ∈ e.children, c.outcomes rules .broke := by
  cases e with
  | breakLoop span => exact absurd rfl (hbreak span)
  | whileLoop => exact absurd rfl (ne_broke_of_whileDo h)
  | doWhileLoop => exact absurd rfl (ne_broke_of_doWhile h)
  | block span statements => exact exists_outcomes_of_outcomesOfAll h (by simp)
  | binary span left op right =>
    rcases or_of_andThen h with h | h
    . exact ⟨left, by simp [children], h⟩
    . rcases or_of_andThen h with h | h
      . exact ⟨right, by simp [children], h⟩
      . simp [mayThrow] at h
  | negation | cast | throwValue =>
    rcases or_of_andThen h with h | h
    . exact ⟨_, by simp [children], h⟩
    . simp [mayThrow, only] at h
  | call span receiver feature args =>
    have hargs (h : (outcomesOfAll rules args).andThen
        (invoking rules ⟨receiver, feature, args⟩) .broke)
        : ∃ c ∈ receiver.toList ++ args, c.outcomes rules .broke := by
      rcases or_of_andThen h with h | h
      . obtain ⟨c, hc, h⟩ := exists_outcomes_of_outcomesOfAll h (by simp)
        exact ⟨c, by simp [hc], h⟩
      . simp [invoking] at h
    cases receiver with
    | none => exact hargs h
    | some receiver =>
      rcases or_of_andThen h with h | h
      . exact ⟨receiver, by simp [children], h⟩
      . exact hargs h
  | conditional span condition thenBranch elseBranch =>
    cases elseBranch with
    | none =>
      rcases or_of_andThen h with h | h
      . exact ⟨condition, by simp [children], h⟩
      . rcases or_of_branch h with h | h
        . exact ⟨thenBranch, by simp [children], h⟩
        . simp [only] at h
    | some elseBranch =>
      rcases or_of_andThen h with h | h
      . exact ⟨condition, by simp [children], h⟩
      . rcases or_of_branch h with h | h
        . exact ⟨thenBranch, by simp [children], h⟩
        . exact ⟨elseBranch, by simp [children], h⟩
  | returnValue span value =>
    cases value with
    | none => simp [outcomes, only] at h
    | some value =>
      rcases or_of_andThen h with h | h
      . exact ⟨value, by simp [children], h⟩
      . simp [only] at h
  | tryCatch span body handlers finalizer =>
    have hcatching (h : (body.outcomes rules).catching (outcomesOfAny rules handlers) .broke)
        : ∃ c ∈ body :: handlers ++ finalizer.toList, c.outcomes rules .broke := by
      rcases or_of_catching h with h | h
      . exact ⟨body, by simp, h⟩
      . obtain ⟨c, hc, h⟩ := outcomesOfAny_iff.mp h
        exact ⟨c, by simp [hc], h⟩
    cases finalizer with
    | none => exact hcatching h
    | some finalizer =>
      rcases or_of_finallyDo h with h | h
      . exact hcatching h
      . exact ⟨finalizer, by simp [children], h⟩
  | synchronized span lock body =>
    rcases or_of_andThen h with h | h
    . exact ⟨lock, by simp [children], h⟩
    . rcases h with h | h
      . contradiction
      . exact ⟨body, by simp [children], h⟩
  | _ => simp [outcomes, only, mayThrow] at h

theorem breaksOut_eq_any_children (e : Expr)
    : e.breaksOut =
        match e with
        | breakLoop _ => true
        | whileLoop .. | doWhileLoop .. => false
        | e => e.children.any breaksOut := by
  cases e with
  | call span receiver =>
    cases receiver <;> simp [breaksOut, children, anyBreaksOut_eq_any]
  | conditional span condition thenBranch elseBranch =>
    cases elseBranch <;> simp [breaksOut, children]
  | returnValue span value => cases value <;> simp [breaksOut, children]
  | tryCatch span body handlers finalizer =>
    cases finalizer <;> simp [breaksOut, children, anyBreaksOut_eq_any]
  | _ => simp [breaksOut, children, anyBreaksOut_eq_any]

theorem breaksOut_of_outcomes_broke {e : Expr} (h : e.outcomes rules .broke)
    : e.breaksOut = true := by
  induction e using induction_children with
  | step e ih =>
    rw [breaksOut_eq_any_children]
    split
    . rfl
    . exact absurd rfl (ne_broke_of_whileDo h)
    . exact absurd rfl (ne_broke_of_doWhile h)
    . next hbreak _ _ =>
      obtain ⟨c, hc, hbroke⟩ := exists_children_broke h hbreak
      exact List.any_eq_true.mpr ⟨c, hc, ih c hc hbroke⟩

end Expr

end OperatorLowering
