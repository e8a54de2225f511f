import OperatorLowering.Config
import OperatorLowering.Proofs.DeliberateExits
import OperatorLowering.Proofs.EndlessLoops

/-!
Soundness of the exit analysis: which expressions that it calls definite exits never complete. The
analysis looks for breaks in the bodies of `while` loops only, so the answer hangs on the `do` loops
of the expression.
-/

namespace OperatorLowering

namespace Expr

open Outcomes

/--
No `do` loop in the expression has a body that the analysis calls a definite exit although a break
may leave it.
-/
def ExitingLoopsUnbroken (rules : ExitRules) (e : Expr) : Prop :=
  ∀ span body condition, doWhileLoop span body condition ∈ e.nodes →
    body.isDefiniteExit rules = true → ¬ body.outcomes rules .broke

variable {rules : ExitRules} {e : Expr}

theorem ExitingLoopsUnbroken.of_mem_nodes {n : Expr} (h : e.ExitingLoopsUnbroken rules)
    (hn : n ∈ e.nodes) : n.ExitingLoopsUnbroken rules := by
  intro span body condition hloop
  exact h span body condition (mem_nodes_trans hloop hn)

theorem ExitingLoopsUnbroken.of_mem_children {c : Expr} (h : e.ExitingLoopsUnbroken rules)
    (hc : c ∈ e.children) : c.ExitingLoopsUnbroken rules :=
  h.of_mem_nodes (mem_nodes_of_mem_children hc (mem_nodes_self c))

theorem eq_boolLit_of_isTrueLiteral (h : e.isTrueLiteral = true)
    : ∃ span, e = boolLit span true := by
  cases e with
  | boolLit span value =>
    simp only [isTrueLiteral] at h
    exact ⟨span, by rw [h]⟩
  | _ => simp [isTrueLiteral] at h

-- The induction goes over the children: of a block it uses the statement that exits, of a `try`
-- either the finalizer or the body with all handlers.
theorem not_outcomes_normal_of_isDefiniteExit (hloops : e.ExitingLoopsUnbroken rules)
    (hexit : e.isDefiniteExit rules = true) : ¬ e.outcomes rules .normal := by
  induction e using induction_children with
  | step e ih =>
    replace ih (c : Expr) (hc : c ∈ e.children) (hexit : c.isDefiniteExit rules = true)
        : ¬ c.outcomes rules .normal :=
      ih c hc (hloops.of_mem_children hc) hexit
    cases e with
    | returnValue span value => exact (HasDeliberateExit.returned span value).not_outcomes_normal
    | throwValue span value => exact (HasDeliberateExit.thrown span value).not_outcomes_normal
    | block span statements =>
      rw [isDefiniteExit_block, List.any_eq_true] at hexit
      obtain ⟨s, hs, hexit⟩ := hexit
      intro h
      exact ih s hs hexit (outcomesOfAll_normal.mp h s hs)
    | conditional span condition thenBranch elseBranch =>
      cases elseBranch with
      | none => contradiction
      | some elseBranch =>
        rw [isDefiniteExit_conditional, Bool.and_eq_true] at hexit
        intro h
        rcases or_of_branch (andThen_normal.mp h).2 with h | h
        . exact ih thenBranch (by simp [children]) hexit.1 h
        . exact ih elseBranch (by simp [children]) hexit.2 h
    | tryCatch span body handlers finalizer =>
      have hcatching (hbody : body.isDefiniteExit rules = true)
          (hhandlers : ∀ h ∈ handlers, h.isDefiniteExit rules = true)
          : ¬ (body.outcomes rules).catching (outcomesOfAny rules handlers) .normal := by
        intro h
        rcases or_of_catching h with h | h
        . exact ih body (by simp [children]) hbody h
        . obtain ⟨handler, hmem, h⟩ := outcomesOfAny_iff.mp h
          exact ih handler (by simp [children, hmem]) (hhandlers handler hmem) h
      rw [isDefiniteExit_tryCatch, Bool.or_eq_true, Bool.and_eq_true, List.all_eq_true] at hexit
      intro h
      cases finalizer with
      | none =>
        rcases hexit with hexit | ⟨hbody, hhandlers⟩
        . contradiction
        . exact hcatching hbody hhandlers h
      | some finalizer =>
        rcases hexit with hexit | ⟨hbody, hhandlers⟩
        . exact ih finalizer (by simp [children]) hexit (normal_of_finallyDo h).2
        . exact hcatching hbody hhandlers (normal_of_finallyDo h).1
    | synchronized span lock body =>
      intro h
      rcases (andThen_normal.mp h).2 with h | h
      . contradiction
      . exact ih body (by simp [children]) hexit h
    | doWhileLoop span body condition =>
      apply not_doWhile_normal
      . exact ih body (by simp [children]) hexit
      . exact hloops span body condition (mem_nodes_self _) hexit
    | whileLoop span condition body =>
      obtain ⟨hliteral, hbody⟩ := Bool.and_eq_true_iff.mp hexit
      obtain ⟨literal, rfl⟩ := eq_boolLit_of_isTrueLiteral hliteral
      exact not_outcomes_normal_of_endless (Bool.not_eq_true' _ ▸ hbody)
    | call span receiver feature args =>
      obtain ⟨id, hslot, hid⟩ := ExitRules.exists_linked_of_isExitCall hexit
      exact (HasDeliberateExit.called span hslot hid).not_outcomes_normal
    | _ => contradiction

theorem exitingLoopsUnbroken_of_breaksOut
    (h : ∀ span body condition, doWhileLoop span body condition ∈ e.nodes → body.breaksOut = false)
    : e.ExitingLoopsUnbroken rules := by
  intro span body condition hloop _ hbroke
  have := breaksOut_of_outcomes_broke hbroke
  rw [h span body condition hloop] at this
  contradiction

theorem exitingLoopsUnbroken_of_sound
    (h : ∀ n ∈ e.nodes, n.isDefiniteExit rules = true → ¬ n.outcomes rules .normal)
    : e.ExitingLoopsUnbroken rules := by
  intro span body condition hloop hexit hbroke
  exact h _ hloop hexit (doWhile_normal_of_broke hbroke)

end Expr

theorem Program.isDefiniteExit_of_title_notMem {program : Program} {registry : Registry}
    {a : Action} {type : Spanned TypeName} (hmem : Item.action a ∈ program.items)
    (htype : a.resultType = some type) (hvoid : type.node ≠ .void)
    (htitle : (Item.action a).title ∉ program.fallThroughTitles registry)
    : a.body.isDefiniteExit registry = true := by
  have hfalls : Item.fallsThrough registry (.action a) = false := by
    rw [← Bool.not_eq_true]
    intro h
    apply htitle
    rw [fallThroughTitles_eq]
    exact List.mem_map_of_mem (List.mem_filter.mpr ⟨hmem, h⟩)
  have hreturns : (Item.action a).returnsValue = true := by
    simp [Item.returnsValue, htype, hvoid]
  simpa [Item.fallsThrough, Item.body, hreturns, ExitVerdict.needsReturn,
    ExitVerdict.ofExpr] using hfalls

/--
Everywhere in an expression the definite exits never complete exactly if no `do` loop in it can be
broken out of before its exit. So an action that has to return a value, is not listed as falling
through and has no such loop never runs off the end of its body.
-/
theorem definite_exits_never_complete_iff_loops_unbroken (rules : ExitRules) (e : Expr)
    : ((∀ n ∈ e.nodes, n.isDefiniteExit rules = true → ¬ n.outcomes rules .normal) ↔
          e.ExitingLoopsUnbroken rules) ∧
        ∀ (program : Program) (config : Config) (a : Action) (type : Spanned TypeName),
          Item.action a ∈ program.items → a.resultType = some type → type.node ≠ .void →
          (Item.action a).title ∉ program.fallThroughTitles config.registry →
          a.body.ExitingLoopsUnbroken config.registry →
          ¬ a.body.outcomes config.registry .normal := by
  refine ⟨⟨Expr.exitingLoopsUnbroken_of_sound, ?_⟩, ?_⟩
  . intro hloops n hn hexit
    exact Expr.not_outcomes_normal_of_isDefiniteExit (hloops.of_mem_nodes hn) hexit
  . intro program config a type hmem htype hvoid htitle hloops
    apply Expr.not_outcomes_normal_of_isDefiniteExit hloops
    exact Program.isDefiniteExit_of_title_notMem hmem htype hvoid htitle

/-- `do { first; return 1 } while (true)` -/
def returningLoop (first : Expr) : Expr :=
  .doWhileLoop .zero (.block .zero [first, .returnValue .zero (some (.intLit .zero 1))])
    (.boolLit .zero true)

/-- A program with one action, which has to return an `int`. -/
def Program.ofBody (body : Expr) : Program × Action :=
  let action : Action :=
    ⟨⟨"f", .zero⟩, [], some ⟨.numeric (.primitive .int), .zero⟩, body, .zero⟩
  (⟨[.action action], []⟩, action)

-- The break leaves the inner loop only.
theorem inner_break_never_completes
    : let loop := returningLoop (.whileLoop .zero (.var .zero "more") (.breakLoop .zero))
      let (program, action) := Program.ofBody loop
      (Item.action action).title ∉ program.fallThroughTitles Config.empty.registry ∧
        loop.ExitingLoopsUnbroken Config.empty.registry ∧
        ¬ loop.outcomes Config.empty.registry .normal := by
  intro loop
  have htitle : (Item.action (Program.ofBody loop).2).title ∉
      (Program.ofBody loop).1.fallThroughTitles Config.empty.registry := by decide
  have hloops : loop.ExitingLoopsUnbroken Config.empty.registry := by
    apply Expr.exitingLoopsUnbroken_of_breaksOut
    intro span body condition h
    simp only [loop, returningLoop, Expr.nodes, Expr.nodesOfAll, List.append_nil, List.cons_append,
      List.nil_append, List.mem_cons, Expr.doWhileLoop.injEq, List.not_mem_nil, reduceCtorEq,
      or_false] at h
    obtain ⟨-, rfl, -⟩ := h
    rfl
  refine ⟨htitle, hloops, ?_⟩
  exact (definite_exits_never_complete_iff_loops_unbroken Config.empty.registry loop).2
    (Program.ofBody loop).1 Config.empty (Program.ofBody loop).2 _ (List.mem_singleton.mpr rfl) rfl
    (by simp) htitle hloops

theorem broken_loop_completes_although_definite_exit
    : let loop := returningLoop (.conditional .zero (.var .zero "done") (.breakLoop .zero) none)
      let (program, action) := Program.ofBody loop
      loop.isDefiniteExit Config.empty.registry = true ∧
        (Item.action action).title ∉ program.fallThroughTitles Config.empty.registry ∧
        loop.outcomes Config.empty.registry .normal := by
  refine ⟨by decide, by decide, ?_⟩
  apply Outcomes.doWhile_normal_of_broke
  simp [Expr.outcomes, Expr.outcomesOfAll, Outcomes.andThen, Outcomes.branch, Outcomes.only,
    Expr.mayBe]

end OperatorLowering
