import OperatorLowering.Proofs.Execution
import OperatorLowering.Proofs.FixedSlots

/-!
Deliberate exits: a `return`, a `throw` or a call of a registered callable, by itself or among the
statements of a block. No execution completes one, whatever breaks and loops come before it, and
each of them is a definite exit.
-/

namespace OperatorLowering

namespace ExitRules

variable {rules : ExitRules} {c : FeatureCall} {id : CallableId}

theorem isExitCall_of_linked (hslot : rules.slotOf c = .linked id)
    (hid : rules.registry.isExit id = true) : rules.isExitCall c = true := by
  unfold isExitCall
  rw [hslot]
  exact hid

theorem exists_linked_of_isExitCall (h : rules.isExitCall c = true)
    : ∃ id, rules.slotOf c = .linked id ∧ rules.registry.isExit id = true := by
  unfold isExitCall at h
  cases hslot : rules.slotOf c with
  | linked id =>
    rw [hslot] at h
    exact ⟨id, rfl, h⟩
  | proxy text =>
    rw [hslot] at h
    contradiction

end ExitRules

namespace Expr

open Outcomes

/-- The expression is an exit by itself, or its body or one of its statements has one. -/
inductive HasDeliberateExit (rules : ExitRules) : Expr → Prop where
  | returned (span : Span) (value : Option Expr) : HasDeliberateExit rules (returnValue span value)
  | thrown (span : Span) (value : Expr) : HasDeliberateExit rules (throwValue span value)
  | called (span : Span) {receiver : Option Expr} {feature : FeatureSlot} {args : List Expr}
      {id : CallableId} : rules.slotOf ⟨receiver, feature, args⟩ = .linked id →
      rules.registry.isExit id = true →
      HasDeliberateExit rules (call span receiver feature args)
  | statement (span : Span) {statements : List Expr} {s : Expr}
      : s ∈ statements → HasDeliberateExit rules s → HasDeliberateExit rules (block span statements)
  | locked (span : Span) (lock : Expr) {body : Expr}
      : HasDeliberateExit rules body → HasDeliberateExit rules (synchronized span lock body)

variable {rules : ExitRules} {e : Expr}

open ExitRules

theorem isIntentionalExit_of_hasDeliberateExit (h : e.HasDeliberateExit rules)
    : e.isIntentionalExit rules = true := by
  induction h with
  | returned | thrown => rfl
  | called _ hslot hid => exact isExitCall_of_linked hslot hid
  | statement _ hs _ ih =>
    rw [isIntentionalExit_block, List.any_eq_true]
    exact ⟨_, hs, ih⟩
  | locked _ _ _ ih => exact ih

theorem hasDeliberateExit_of_isIntentionalExit (h : e.isIntentionalExit rules = true)
    : e.HasDeliberateExit rules := by
  induction e using induction_children with
  | step e ih =>
    cases e with
    | returnValue => apply HasDeliberateExit.returned
    | throwValue => apply HasDeliberateExit.thrown
    | call span receiver feature args =>
      obtain ⟨id, hslot, hid⟩ := exists_linked_of_isExitCall h
      exact .called span hslot hid
    | block span statements =>
      rw [isIntentionalExit_block, List.any_eq_true] at h
      obtain ⟨s, hs, h⟩ := h
      exact .statement span hs (ih s hs h)
    | synchronized span lock body => exact .locked span lock (ih body (by simp [children]) h)
    | _ => contradiction

namespace HasDeliberateExit

theorem isDefiniteExit (h : e.HasDeliberateExit rules) : e.isDefiniteExit rules = true := by
  induction h with
  | returned | thrown => rfl
  | called _ hslot hid => exact isExitCall_of_linked hslot hid
  | statement _ hs _ ih =>
    rw [isDefiniteExit_block, List.any_eq_true]
    exact ⟨_, hs, ih⟩
  | locked _ _ _ ih => exact ih

-- A block completes only if all its statements do, so what comes before the exit does not matter.
theorem not_outcomes_normal (h : e.HasDeliberateExit rules) : ¬ e.outcomes rules .normal := by
  induction h with
  | returned _ value => cases value <;> simp [outcomes, only]
  | thrown => simp [outcomes, only]
  | @called _ receiver _ _ _ hslot hid =>
    cases receiver <;> simp [outcomes, invoking, isExitCall_of_linked hslot hid]
  | statement _ hs _ ih =>
    intro h
    exact ih (outcomesOfAll_normal.mp h _ hs)
  | locked _ _ _ ih =>
    intro h
    rcases (andThen_normal.mp h).2 with h | h
    . contradiction
    . exact ih h

end HasDeliberateExit

end Expr

/--
The intentional exits are the deliberate ones. No execution of one completes, it is a definite exit
as well, and so no return is added after it.
-/
theorem intentional_exits_never_complete (rules : ExitRules) (e : Expr)
    : (e.isIntentionalExit rules = true ↔ e.HasDeliberateExit rules) ∧
        (e.isIntentionalExit rules = true →
          ¬ e.outcomes rules .normal ∧ e.isDefiniteExit rules = true ∧
            (ExitVerdict.ofExpr rules e).needsReturn = false) := by
  refine ⟨⟨Expr.hasDeliberateExit_of_isIntentionalExit,
    Expr.isIntentionalExit_of_hasDeliberateExit⟩, ?_⟩
  intro h
  have hexit := Expr.hasDeliberateExit_of_isIntentionalExit h
  refine ⟨hexit.not_outcomes_normal, hexit.isDefiniteExit, ?_⟩
  simp only [ExitVerdict.needsReturn, ExitVerdict.ofExpr, hexit.isDefiniteExit, Bool.not_true]

/-- `{ if (done) break; synchronized (lock) { do { break } while (true); killMe() } }` -/
def Expr.stopUnlessDone : Expr :=
  .block .zero [.conditional .zero (.var .zero "done") (.breakLoop .zero) none,
    .synchronized .zero (.var .zero "lock")
      (.block .zero [.doWhileLoop .zero (.breakLoop .zero) (.boolLit .zero true),
        .call .zero none (.linked ⟨"io.sarl.api.core.Lifecycle.killMe"⟩) []])]

-- The block may be left by its break, but not at its end.
theorem stopUnlessDone_never_completes
    : Expr.stopUnlessDone.isIntentionalExit Registry.builtin = true ∧
        Expr.stopUnlessDone.outcomes Registry.builtin .broke ∧
        ¬ Expr.stopUnlessDone.outcomes Registry.builtin .normal ∧
        Expr.stopUnlessDone.isDefiniteExit Registry.builtin = true ∧
        (ExitVerdict.ofExpr Registry.builtin .stopUnlessDone).needsReturn = false := by
  have hexit : Expr.stopUnlessDone.isIntentionalExit Registry.builtin = true := by decide
  refine ⟨hexit, ?_, (intentional_exits_never_complete Registry.builtin .stopUnlessDone).2 hexit⟩
  simp [Expr.stopUnlessDone, Expr.outcomes, Expr.outcomesOfAll, Outcomes.andThen, Outcomes.branch,
    Outcomes.only, Expr.mayBe]

end OperatorLowering
