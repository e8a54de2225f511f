import OperatorLowering.Proofs.StaticType
import OperatorLowering.Proofs.Tree

/-!
Arithmetic trees: the part of an expression that is made of binary operators and negations. Its
leaves are the first expressions of any other form.
-/

namespace OperatorLowering

namespace Expr

def isArithmetic : Expr → Bool
  | binary .. | negation .. => true
  | _ => false

def arithmeticLeaves : Expr → List Expr
  | binary _ left _ right => left.arithmeticLeaves ++ right.arithmeticLeaves
  | negation _ operand => operand.arithmeticLeaves
  | e => [e]
termination_by structural e => e

def arithmeticNodes : Expr → List Expr
  | e@(binary _ left _ right) => e :: (left.arithmeticNodes ++ right.arithmeticNodes)
  | e@(negation _ operand) => e :: operand.arithmeticNodes
  | _ => []
termination_by structural e => e

/-- The operators that are not defined on big numbers. -/
def refusesBig : Expr → Bool
  | binary _ _ op _ => op == .pow
  | negation .. => true
  | _ => false

def HasNumericLeaves (s : Scope) (e : Expr) : Prop :=
  ∀ leaf ∈ e.arithmeticLeaves, ∃ t, s.typeOf? leaf = some (.numeric t)

def HasBigLeaf (s : Scope) (e : Expr) : Prop :=
  ∃ leaf ∈ e.arithmeticLeaves, ∃ t, s.typeOf? leaf = some (.numeric t) ∧ t.isBig = true

/-- Some operator is given a big number, however deep below it, that it is not defined on. -/
def HasRefusedOperator (s : Scope) (e : Expr) : Prop :=
  ∃ n ∈ e.arithmeticNodes, n.refusesBig = true ∧ n.HasBigLeaf s

theorem arithmetic_induction {P : Expr → Prop}
    (binary : ∀ span left op right, P left → P right → P (.binary span left op right))
    (negation : ∀ span operand, P operand → P (.negation span operand))
    (leaf : ∀ e, e.isArithmetic = false → P e) (e : Expr) : P e := by
  match e with
  | .binary span left op right =>
    apply binary
    . exact arithmetic_induction binary negation leaf left
    . exact arithmetic_induction binary negation leaf right
  | .negation span operand =>
    apply negation
    exact arithmetic_induction binary negation leaf operand
  | .intLit .. | .floatLit .. | .boolLit .. | .stringLit .. | .null _ | .var .. | .cast ..
  | .call .. | .block .. | .conditional .. | .whileLoop .. | .doWhileLoop .. | .breakLoop _
  | .returnValue .. | .throwValue .. | .tryCatch .. | .synchronized .. | .unmodelled .. =>
    apply leaf
    rfl

variable {s : Scope} {e left right operand : Expr} {span : Span} {op : BinaryOp}

theorem arithmeticLeaves_of_leaf (h : e.isArithmetic = false) : e.arithmeticLeaves = [e] := by
  cases e with
  | binary | negation => contradiction
  | _ => rfl

theorem arithmeticNodes_of_leaf (h : e.isArithmetic = false) : e.arithmeticNodes = [] := by
  cases e with
  | binary | negation => contradiction
  | _ => rfl

theorem arithmeticLeaves_eq_flatMap (h : e.isArithmetic = true)
    : e.arithmeticLeaves = e.children.flatMap arithmeticLeaves := by
  cases e with
  | binary | negation => simp [arithmeticLeaves, children]
  | _ => contradiction

theorem arithmeticNodes_eq_cons (h : e.isArithmetic = true)
    : e.arithmeticNodes = e :: e.children.flatMap arithmeticNodes := by
  cases e with
  | binary | negation => simp [arithmeticNodes, children]
  | _ => contradiction

theorem mem_arithmeticNodes_cases {n : Expr} (h : n ∈ e.arithmeticNodes)
    : e.isArithmetic = true ∧ (n = e ∨ ∃ c ∈ e.children, n ∈ c.arithmeticNodes) := by
  cases he : e.isArithmetic with
  | true =>
    rw [arithmeticNodes_eq_cons he, List.mem_cons, List.mem_flatMap] at h
    exact ⟨rfl, h⟩
  | false =>
    rw [arithmeticNodes_of_leaf he] at h
    contradiction

theorem isArithmetic_of_mem_arithmeticNodes {n : Expr} (h : n ∈ e.arithmeticNodes)
    : n.isArithmetic = true := by
  induction e using induction_children with
  | step e ih =>
    obtain ⟨he, rfl | ⟨c, hc, hn⟩⟩ := mem_arithmeticNodes_cases h
    . exact he
    . exact ih c hc hn

theorem arithmeticNodes_sublist_nodes (e : Expr) : e.arithmeticNodes.Sublist e.nodes := by
  induction e using arithmetic_induction with
  | binary span left op right ihleft ihright => exact (ihleft.append ihright).cons_cons _
  | negation span operand ih => exact ih.cons_cons _
  | leaf e he =>
    rw [arithmeticNodes_of_leaf he]
    apply List.nil_sublist

theorem HasNumericLeaves.of_mem_children {c : Expr} (h : e.HasNumericLeaves s)
    (he : e.isArithmetic = true) (hc : c ∈ e.children) : c.HasNumericLeaves s := by
  intro leaf hleaf
  apply h
  rw [arithmeticLeaves_eq_flatMap he]
  exact List.mem_flatMap_of_mem hc hleaf

theorem HasNumericLeaves.of_mem_arithmeticNodes {n : Expr} (h : e.HasNumericLeaves s)
    (hn : n ∈ e.arithmeticNodes) : n.HasNumericLeaves s := by
  induction e using induction_children with
  | step e ih =>
    obtain ⟨he, rfl | ⟨c, hc, hn⟩⟩ := mem_arithmeticNodes_cases hn
    . exact h
    . exact ih c hc (h.of_mem_children he hc) hn

theorem HasNumericLeaves.of_binary_left (h : (binary span left op right).HasNumericLeaves s)
    : left.HasNumericLeaves s :=
  h.of_mem_children rfl List.mem_cons_self

theorem HasNumericLeaves.of_binary_right (h : (binary span left op right).HasNumericLeaves s)
    : right.HasNumericLeaves s :=
  h.of_mem_children rfl (.tail _ List.mem_cons_self)

theorem HasNumericLeaves.of_negation (h : (negation span operand).HasNumericLeaves s)
    : operand.HasNumericLeaves s :=
  h.of_mem_children rfl List.mem_cons_self

theorem HasNumericLeaves.of_leaf (h : e.HasNumericLeaves s) (he : e.isArithmetic = false)
    : ∃ t, s.typeOf? e = some (.numeric t) := by
  apply h
  simp [arithmeticLeaves_of_leaf he]

theorem HasNumericLeaves.typeOf?_cases (h : e.HasNumericLeaves s)
    : s.typeOf? e = none ∨ ∃ t, s.typeOf? e = some (.numeric t) := by
  cases htype : s.typeOf? e with
  | none => exact .inl rfl
  | some type =>
    apply Or.inr
    cases e with
    | binary span left op right =>
      obtain ⟨_, _, p, -, -, -, rfl⟩ := Scope.exists_operands_of_typeOf?_binary htype
      exact ⟨_, rfl⟩
    | negation span operand =>
      obtain ⟨_, p, -, -, rfl⟩ := Scope.exists_operand_of_typeOf?_negation htype
      exact ⟨_, rfl⟩
    | _ => exact htype ▸ h.of_leaf rfl

theorem hasBigLeaf_binary
    : (binary span left op right).HasBigLeaf s ↔ left.HasBigLeaf s ∨ right.HasBigLeaf s := by
  simp [HasBigLeaf, arithmeticLeaves, or_and_right, exists_or]

theorem hasBigLeaf_of_leaf {t : NumericType} (he : e.isArithmetic = false)
    (ht : s.typeOf? e = some (.numeric t)) : e.HasBigLeaf s ↔ t.isBig = true := by
  simp [HasBigLeaf, arithmeticLeaves_of_leaf he, ht]

theorem hasRefusedOperator_binary
    : (binary span left op right).HasRefusedOperator s ↔
        (op = .pow ∧ (left.HasBigLeaf s ∨ right.HasBigLeaf s)) ∨
          left.HasRefusedOperator s ∨ right.HasRefusedOperator s := by
  simp [HasRefusedOperator, arithmeticNodes, refusesBig, hasBigLeaf_binary, or_and_right, exists_or]

theorem hasRefusedOperator_negation
    : (negation span operand).HasRefusedOperator s ↔
        operand.HasBigLeaf s ∨ operand.HasRefusedOperator s := by
  simp [HasRefusedOperator, arithmeticNodes, refusesBig, HasBigLeaf, arithmeticLeaves]

theorem not_hasRefusedOperator_of_leaf (he : e.isArithmetic = false)
    : ¬e.HasRefusedOperator s := by
  simp [HasRefusedOperator, arithmeticNodes_of_leaf he]

end Expr

end OperatorLowering
