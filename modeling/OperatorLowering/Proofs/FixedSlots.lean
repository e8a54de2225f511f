import OperatorLowering.Check
import OperatorLowering.Proofs.Tree

/-!
The exit analysis without the asking. If looking up what a call refers to leaves the resolver as it
is, so do the tests of the analysis, and their answers are a function of the tree and of what its
calls refer to.
-/

namespace OperatorLowering

namespace Test

variable {ρ : Type} {first second : Test ρ} {r : ρ} {a b : Bool}

theorem and_eq (hfirst : first r = (a, r)) (hsecond : second r = (b, r))
    : first.and second r = (a && b, r) := by
  unfold Test.and
  rw [hfirst]
  cases a with
  | false => rfl
  | true => exact hsecond

theorem or_eq (hfirst : first r = (a, r)) (hsecond : second r = (b, r))
    : first.or second r = (a || b, r) := by
  unfold Test.or
  rw [hfirst]
  cases a with
  | false => exact hsecond
  | true => rfl

end Test

namespace Expr

section Lists

variable {ρ : Type} {exits : FeatureCall → Test ρ} {r : ρ} {p : Expr → Bool} {es : List Expr}

theorem anyDefiniteExit_eq (h : ∀ e ∈ es, e.definiteExit exits r = (p e, r))
    : anyDefiniteExit exits es r = (es.any p, r) := by
  induction es with
  | nil => rfl
  | cons e es ih =>
    rw [List.forall_mem_cons] at h
    exact Test.or_eq h.1 (ih h.2)

theorem allDefiniteExit_eq (h : ∀ e ∈ es, e.definiteExit exits r = (p e, r))
    : allDefiniteExit exits es r = (es.all p, r) := by
  induction es with
  | nil => rfl
  | cons e es ih =>
    rw [List.forall_mem_cons] at h
    exact Test.and_eq h.1 (ih h.2)

theorem anyIntentionalExit_eq (h : ∀ e ∈ es, e.intentionalExit exits r = (p e, r))
    : anyIntentionalExit exits es r = (es.any p, r) := by
  induction es with
  | nil => rfl
  | cons e es ih =>
    rw [List.forall_mem_cons] at h
    exact Test.or_eq h.1 (ih h.2)

end Lists

section Equations

variable {rules : ExitRules} {span : Span}

theorem isDefiniteExit_block {statements : List Expr}
    : (block span statements).isDefiniteExit rules = statements.any (isDefiniteExit rules) := by
  have hany : anyDefiniteExit rules.test statements () =
      (statements.any (isDefiniteExit rules), ()) :=
    anyDefiniteExit_eq fun _ _ => rfl
  exact congrArg Prod.fst hany

theorem isDefiniteExit_conditional {condition thenBranch elseBranch : Expr}
    : (conditional span condition thenBranch (some elseBranch)).isDefiniteExit rules =
        (thenBranch.isDefiniteExit rules && elseBranch.isDefiniteExit rules) := by
  have hboth : (thenBranch.definiteExit rules.test).and (elseBranch.definiteExit rules.test) () =
      (thenBranch.isDefiniteExit rules && elseBranch.isDefiniteExit rules, ()) :=
    Test.and_eq rfl rfl
  exact congrArg Prod.fst hboth

theorem isDefiniteExit_tryCatch {body : Expr} {handlers : List Expr} {finalizer : Option Expr}
    : (tryCatch span body handlers finalizer).isDefiniteExit rules =
        (finalizer.any (isDefiniteExit rules) ||
          (body.isDefiniteExit rules && handlers.all (isDefiniteExit rules))) := by
  have hcaught : (body.definiteExit rules.test).and (allDefiniteExit rules.test handlers) () =
      (body.isDefiniteExit rules && handlers.all (isDefiniteExit rules), ()) :=
    Test.and_eq rfl (allDefiniteExit_eq fun _ _ => rfl)
  cases finalizer with
  | none => exact congrArg Prod.fst hcaught
  | some finalizer => exact congrArg Prod.fst (Test.or_eq rfl hcaught)

theorem isIntentionalExit_block {statements : List Expr}
    : (block span statements).isIntentionalExit rules =
        statements.any (isIntentionalExit rules) := by
  have hany : anyIntentionalExit rules.test statements () =
      (statements.any (isIntentionalExit rules), ()) :=
    anyIntentionalExit_eq fun _ _ => rfl
  exact congrArg Prod.fst hany

end Equations

section Asking

variable {ρ : Type} {exits : FeatureCall → Test ρ} {rules : ExitRules} {r : ρ}

theorem definiteExit_eq (h : ∀ call, exits call r = (rules.isExitCall call, r)) (e : Expr)
    : e.definiteExit exits r = (e.isDefiniteExit rules, r) := by
  induction e using induction_children with
  | step e ih =>
    cases e with
    | block span statements =>
      rw [isDefiniteExit_block]
      exact anyDefiniteExit_eq ih
    | conditional span condition thenBranch elseBranch =>
      cases elseBranch with
      | none => rfl
      | some elseBranch =>
        rw [isDefiniteExit_conditional]
        exact Test.and_eq (ih thenBranch (by simp [children])) (ih elseBranch (by simp [children]))
    | tryCatch span body handlers finalizer =>
      have hcaught : (body.definiteExit exits).and (allDefiniteExit exits handlers) r =
          (body.isDefiniteExit rules && handlers.all (isDefiniteExit rules), r) := by
        apply Test.and_eq
        . exact ih body (by simp [children])
        . apply allDefiniteExit_eq
          intro handler hmem
          exact ih handler (by simp [children, hmem])
      rw [isDefiniteExit_tryCatch]
      cases finalizer with
      | none => exact hcaught
      | some finalizer => exact Test.or_eq (ih finalizer (by simp [children])) hcaught
    | synchronized span lock body => exact ih body (by simp [children])
    | doWhileLoop span body condition => exact ih body (by simp [children])
    | call span receiver feature args => exact h ⟨receiver, feature, args⟩
    | _ => rfl

theorem intentionalExit_eq (h : ∀ call, exits call r = (rules.isExitCall call, r)) (e : Expr)
    : e.intentionalExit exits r = (e.isIntentionalExit rules, r) := by
  induction e using induction_children with
  | step e ih =>
    cases e with
    | block span statements =>
      rw [isIntentionalExit_block]
      exact anyIntentionalExit_eq ih
    | synchronized span lock body => exact ih body (by simp [children])
    | call span receiver feature args => exact h ⟨receiver, feature, args⟩
    | _ => rfl

theorem compute_eq_ofExpr (h : ∀ call, exits call r = (rules.isExitCall call, r)) (e : Expr)
    : ExitVerdict.compute exits e r = (.ofExpr rules e, r) := by
  unfold ExitVerdict.compute
  rw [definiteExit_eq h]
  dsimp only
  rw [intentionalExit_eq h]
  rfl

end Asking

end Expr

open TypeResolution (slotOf resolveOperand)

variable {ρ : Type} [TypeResolution ρ]

def TypeResolution.slots (r : ρ) (call : FeatureCall) : FeatureSlot := (slotOf r call).1

/-- Looking up a slot leaves the resolver as it is, and no question changes what calls refer to. -/
class FixedSlots (ρ : Type) [TypeResolution ρ] : Prop where
  slotOf_snd (r : ρ) (call : FeatureCall) : (slotOf r call).2 = r
  slots_resolveOperand (r : ρ) (e : Expr)
    : TypeResolution.slots (resolveOperand r e).2 = TypeResolution.slots r

namespace ExitRules

def ofResolver (registry : Registry) (r : ρ) : ExitRules := ⟨registry, TypeResolution.slots r⟩

end ExitRules

namespace Item

/-- Is this an item that has to return a value but may run off the end of its body? -/
def fallsThrough (rules : ExitRules) (item : Item) : Bool :=
  item.returnsValue && (ExitVerdict.ofExpr rules item.body).needsReturn

end Item

variable [FixedSlots ρ]

theorem FixedSlots.slotOf_eq (r : ρ) (call : FeatureCall)
    : slotOf r call = (TypeResolution.slots r call, r) :=
  Prod.ext rfl (slotOf_snd r call)

namespace Registry

theorem exitTest_eq (registry : Registry) (r : ρ) (call : FeatureCall)
    : registry.exitTest call r = ((ExitRules.ofResolver registry r).isExitCall call, r) := by
  unfold exitTest
  rw [FixedSlots.slotOf_eq]
  rfl

theorem definiteExit_exitTest (registry : Registry) (r : ρ) (e : Expr)
    : e.definiteExit registry.exitTest r = (e.isDefiniteExit (.ofResolver registry r), r) :=
  Expr.definiteExit_eq (registry.exitTest_eq r) e

end Registry

namespace Checker

variable (c : Checker) (r : ρ)

theorem verdict_eq (item : Item)
    : c.verdict item r = (.ofExpr (.ofResolver c.registry r) item.body, r) :=
  Expr.compute_eq_ofExpr (c.registry.exitTest_eq r) item.body

theorem needsReturn_eq (item : Item)
    : c.needsReturn item r =
        ((ExitVerdict.ofExpr (.ofResolver c.registry r) item.body).needsReturn, r) := by
  unfold needsReturn
  rw [verdict_eq]

theorem fallThrough_eq (items : List Item)
    : c.fallThrough items r =
        (items.filter (Item.fallsThrough (.ofResolver c.registry r)), r) := by
  induction items with
  | nil => rfl
  | cons item items ih =>
    have hfalls : (Test.answer item.returnsValue).and (c.needsReturn item) r =
        (item.fallsThrough (.ofResolver c.registry r), r) :=
      Test.and_eq rfl (c.needsReturn_eq r item)
    rw [fallThrough, hfalls]
    dsimp only
    rw [ih, List.filter_cons]

end Checker

instance : FixedSlots Resolver where
  slotOf_snd _ _ := rfl
  slots_resolveOperand _ _ := rfl

theorem Program.fallThroughTitles_eq (program : Program) (registry : Registry)
    : program.fallThroughTitles registry =
        (program.items.filter (Item.fallsThrough registry)).map Item.title := by
  dsimp only [fallThroughTitles]
  rw [Checker.fallThrough_eq]
  rfl

end OperatorLowering
