import OperatorLowering.Proofs.Checking

/-!
How often a check asks for static types. Each operator asks once about every operand it looks at and
nothing else asks at all, so the count after a check is known from the tree and the scope. Questions
about early exits are answered without any.
-/

namespace OperatorLowering

namespace Expr

/--
The questions a node asks about its operands, its parts left aside. The right operand of a binary
operator is asked about only if the left one is numeric.
-/
def ownTypeQuestions (s : Scope) : Expr → Nat
  | binary _ left _ _ =>
    match s.typeOf? left with
    | some (.numeric _) => 2
    | _ => 1
  | negation .. | cast .. => 1
  | _ => 0

def typeQuestions (s : Scope) (e : Expr) : Nat :=
  e.ownTypeQuestions s + e.children.attach.foldr (fun c total => c.1.typeQuestions s + total) 0
termination_by sizeOf e
decreasing_by exact sizeOf_lt_of_mem_children c.2

def typeQuestionsOfAll (s : Scope) (es : List Expr) : Nat :=
  es.foldr (fun e total => e.typeQuestions s + total) 0

theorem typeQuestions_eq (s : Scope) (e : Expr)
    : e.typeQuestions s = e.ownTypeQuestions s + typeQuestionsOfAll s e.children := by
  rw [typeQuestions, typeQuestionsOfAll,
    List.foldr_attach (f := fun (c : Expr) total => c.typeQuestions s + total)]

theorem ownTypeQuestions_binary (s : Scope) (span : Span) (left right : Expr) (op : BinaryOp)
    : (binary span left op right).ownTypeQuestions s =
        if (s.operandType? left).isSome then 2 else 1 := by
  unfold ownTypeQuestions Scope.operandType? Scope.operandOf
  dsimp only
  cases s.typeOf? left with
  | none => rfl
  | some type => cases type <;> rfl

end Expr

/-- The questions asked about an item: its guard, if it has one, and its body. -/
def Item.typeQuestions (s : Scope) : Item → Nat
  | behavior b => Expr.typeQuestionsOfAll s b.guard.toList + b.body.typeQuestions s
  | action a => a.body.typeQuestions s

namespace Resolver

/-- The resolver after so many questions. The count is a 64-bit word and starts over at its end. -/
def asked (r : Resolver) (n : Nat) : Resolver := ⟨r.scope, r.resolutions + UInt64.ofNat n⟩

@[simp]
theorem asked_scope (r : Resolver) (n : Nat) : (r.asked n).scope = r.scope := rfl

@[simp]
theorem asked_zero (r : Resolver) : r.asked 0 = r := by
  simp [asked]

theorem asked_asked (r : Resolver) (m n : Nat) : (r.asked m).asked n = r.asked (m + n) := by
  simp [asked, UInt64.ofNat_add, UInt64.add_assoc]

theorem count_eq_asked (r : Resolver) : r.count = r.asked 1 := rfl

end Resolver

namespace Checker

variable (c : Checker) (r : Resolver)

theorem checkNode_resolver (e : Expr)
    : (c.checkNode e r).2 = r.asked (e.ownTypeQuestions r.scope) := by
  cases e with
  | binary =>
    rw [checkNode, checkBinary_eq, Expr.ownTypeQuestions_binary, Resolver.count_eq_asked,
      Resolver.count_eq_asked, Resolver.asked_asked]
    dsimp only
    split <;> rfl
  | negation | cast =>
    rw [checkNode, checkUnary_eq]
    rfl
  | block =>
    rw [checkNode, checkBlock_eq]
    exact r.asked_zero.symm
  | _ => exact r.asked_zero.symm

theorem checkNodes_cons_resolver (e : Expr) (es : List Expr)
    : (c.checkNodes (e :: es) r).2 = (c.checkNodes es (c.checkNode e r).2).2 := rfl

theorem checkNodes_append_resolver (es fs : List Expr)
    : (c.checkNodes (es ++ fs) r).2 = (c.checkNodes fs (c.checkNodes es r).2).2 := by
  induction es generalizing r with
  | nil => rfl
  | cons e es ih =>
    rw [List.cons_append, checkNodes_cons_resolver, checkNodes_cons_resolver, ih]

theorem checkNodes_flatMap_resolver {es : List Expr}
    (h : ∀ e ∈ es, ∀ r : Resolver,
      (c.checkNodes e.nodes r).2 = r.asked (e.typeQuestions r.scope))
    : (c.checkNodes (es.flatMap Expr.nodes) r).2 =
        r.asked (Expr.typeQuestionsOfAll r.scope es) := by
  induction es generalizing r with
  | nil => exact r.asked_zero.symm
  | cons e es ih =>
    rw [List.forall_mem_cons] at h
    rw [List.flatMap_cons, checkNodes_append_resolver, h.1, ih _ h.2, Resolver.asked_asked]
    rfl

theorem checkNodes_nodes_resolver (e : Expr)
    : (c.checkNodes e.nodes r).2 = r.asked (e.typeQuestions r.scope) := by
  induction e using Expr.induction_children generalizing r with
  | step e ih =>
    rw [Expr.nodes_eq_cons, checkNodes_cons_resolver, checkNode_resolver,
      checkNodes_flatMap_resolver c _ ih, Resolver.asked_asked, Resolver.asked_scope,
      Expr.typeQuestions_eq]

theorem checkItem_resolver (item : Item)
    : (c.checkItem item r).2 = r.asked (item.typeQuestions r.scope) := by
  unfold checkItem
  rw [checkNodes_flatMap_resolver c r fun e _ r => checkNodes_nodes_resolver c r e]
  cases item with
  | behavior b =>
    obtain ⟨event, guard, body, span⟩ := b
    cases guard <;> simp [Item.parts, Item.typeQuestions, Expr.typeQuestionsOfAll]
  | action a => simp [Item.parts, Item.typeQuestions, Expr.typeQuestionsOfAll]

theorem checkItem_diagnostics_of_scope_eq {r r' : Resolver} (h : r.scope = r'.scope) (item : Item)
    : (c.checkItem item r).1 = (c.checkItem item r').1 := by
  simp only [checkItem_diagnostics, c.checkNode_diagnostics_of_scope_eq h]

end Checker

/--
The check of an item asks for a static type once for each operand that its operators look at, and
keeps to the scope. What it reports does not depend on how much was asked before. Blocks, whose
statements are checked for being reached, verdicts about early exits and the search for items that
need a return ask for none: each of them takes the resolver and gives it back as it was.
-/
theorem check_asks_once_per_operand (c : Checker) (item : Item) (r : Resolver)
    : (c.checkItem item r).2.resolutions =
          r.resolutions + UInt64.ofNat (item.typeQuestions r.scope) ∧
        (c.checkItem item r).2.scope = r.scope ∧
        (∀ count : UInt64,
          (c.checkItem item { r with resolutions := count }).1 = (c.checkItem item r).1) ∧
        (∀ (span : Span) (statements : List Expr),
          (c.checkNode (.block span statements) r).2 = r) ∧
        (∀ e : Expr,
          (e.definiteExit c.registry.exitTest r).2 = r ∧
            (e.intentionalExit c.registry.exitTest r).2 = r ∧
            (ExitVerdict.compute c.registry.exitTest e r).2 = r) ∧
        (c.verdict item r).2 = r ∧
        ∀ items : List Item, (c.fallThrough items r).2 = r := by
  have hafter := c.checkItem_resolver r item
  have hexits := c.registry.exitTest_eq r
  refine ⟨?_, ?_, ?_, ?_, ?_, ?_, ?_⟩
  . rw [hafter, Resolver.asked]
  . rw [hafter, Resolver.asked_scope]
  . intro count
    apply c.checkItem_diagnostics_of_scope_eq
    rfl
  . intro span statements
    rw [Checker.checkNode, Checker.checkBlock_eq]
  . intro e
    rw [Expr.definiteExit_eq hexits, Expr.intentionalExit_eq hexits, Expr.compute_eq_ofExpr hexits]
    exact ⟨rfl, rfl, rfl⟩
  . rw [Checker.verdict_eq]
  . intro items
    rw [Checker.fallThrough_eq]

-- Once for the negation and twice for the sum. Typing the sum for the negation is not counted.
example
    : let sum : Expr := .binary .zero (.intLit .zero 1) .add (.intLit .zero 2)
      ((⟨.builtin, .none⟩ : Checker).checkExpr (.negation .zero sum)
        (Resolver.ofScope .empty)).2.resolutions = 3 := by
  decide

end OperatorLowering
