import OperatorLowering.Proofs.Arithmetic
import OperatorLowering.Proofs.Checking
import OperatorLowering.Proofs.Promotion

/-!
Reports of unsupported operators. An operator is reported where its operands have types and it is
not defined on them; above such an operator there is no type, so nothing more is reported.
-/

namespace OperatorLowering

namespace Expr

/-- The operands all have static types, among them a big one that the operator is not defined on. -/
def IsUnsupported (s : Scope) (n : Expr) : Prop :=
  n.refusesBig = true ∧ (∀ c ∈ n.children, ∃ type, s.typeOf? c = some type) ∧
    ∃ c ∈ n.children, ∃ t, s.typeOf? c = some (.numeric t) ∧ t.isBig = true

/-- The operators on each way from the root of an arithmetic tree to a leaf. -/
def arithmeticPaths : Expr → List (List Expr)
  | e@(binary _ left _ right) => (left.arithmeticPaths ++ right.arithmeticPaths).map (e :: ·)
  | e@(negation _ operand) => operand.arithmeticPaths.map (e :: ·)
  | _ => [[]]
termination_by structural e => e

variable {s : Scope} {e n left right operand : Expr} {t u : NumericType} {span : Span}
  {op : BinaryOp}

theorem arithmeticPaths_eq_map (h : e.isArithmetic = true)
    : e.arithmeticPaths = (e.children.flatMap arithmeticPaths).map (e :: ·) := by
  cases e with
  | binary | negation => simp [arithmeticPaths, children]
  | _ => contradiction

theorem arithmeticPaths_of_leaf (h : e.isArithmetic = false) : e.arithmeticPaths = [[]] := by
  cases e with
  | binary | negation => contradiction
  | _ => rfl

theorem mem_arithmeticPaths_cases {path : List Expr} (h : path ∈ e.arithmeticPaths)
    : path = [] ∨
        e.isArithmetic = true ∧ ∃ c ∈ e.children, ∃ rest ∈ c.arithmeticPaths, path = e :: rest := by
  cases he : e.isArithmetic with
  | true =>
    rw [arithmeticPaths_eq_map he, List.mem_map] at h
    obtain ⟨rest, hrest, rfl⟩ := h
    obtain ⟨c, hc, hrest⟩ := List.mem_flatMap.mp hrest
    exact .inr ⟨rfl, c, hc, rest, hrest, rfl⟩
  | false =>
    rw [arithmeticPaths_of_leaf he, List.mem_singleton] at h
    exact .inl h

theorem mem_arithmeticNodes_of_mem_path {path : List Expr} (hpath : path ∈ e.arithmeticPaths)
    (hn : n ∈ path) : n ∈ e.arithmeticNodes := by
  induction e using induction_children generalizing path with
  | step e ih =>
    rcases mem_arithmeticPaths_cases hpath with rfl | ⟨he, c, hc, rest, hrest, rfl⟩
    . contradiction
    . rw [arithmeticNodes_eq_cons he, List.mem_cons]
      rcases List.mem_cons.mp hn with rfl | hn
      . exact .inl rfl
      . exact .inr (List.mem_flatMap_of_mem hc (ih c hc hrest hn))

theorem isUnsupported_binary (hl : s.typeOf? left = some (.numeric t))
    (hr : s.typeOf? right = some (.numeric u))
    : (binary span left op right).IsUnsupported s ↔ Promotion.binary? op t u = none := by
  rw [Promotion.binary?_eq_none_iff]
  simp [IsUnsupported, refusesBig, children, hl, hr]

theorem isUnsupported_negation (h : s.typeOf? operand = some (.numeric t))
    : (negation span operand).IsUnsupported s ↔ Promotion.negation? t = none := by
  rw [Promotion.negation?_eq_none_iff]
  simp [IsUnsupported, refusesBig, children, h]

theorem not_isUnsupported_of_untyped {c : Expr} (hc : c ∈ n.children) (h : s.typeOf? c = none)
    : ¬n.IsUnsupported s := by
  rintro ⟨-, htyped, -⟩
  obtain ⟨type, htype⟩ := htyped c hc
  rw [h] at htype
  contradiction

theorem typeOf?_eq_none_of_untyped {c : Expr} (hn : n.isArithmetic = true) (hc : c ∈ n.children)
    (h : s.typeOf? c = none) : s.typeOf? n = none := by
  cases htype : s.typeOf? n with
  | none => rfl
  | some type =>
    cases n with
    | binary span left op right =>
      obtain ⟨t, u, p, hl, hr, -⟩ := Scope.exists_operands_of_typeOf?_binary htype
      simp only [children, List.mem_cons, List.not_mem_nil, or_false] at hc
      rcases hc with rfl | rfl <;> simp_all
    | negation span operand =>
      obtain ⟨t, p, ho, -⟩ := Scope.exists_operand_of_typeOf?_negation htype
      simp only [children, List.mem_cons, List.not_mem_nil, or_false] at hc
      simp_all
    | _ => contradiction

theorem HasNumericLeaves.children_cases (h : n.HasNumericLeaves s) (hn : n.isArithmetic = true)
    : (∃ c ∈ n.children, s.typeOf? c = none) ∨
        ∀ c ∈ n.children, ∃ t, s.typeOf? c = some (.numeric t) := by
  by_cases huntyped : ∃ c ∈ n.children, s.typeOf? c = none
  . exact .inl huntyped
  . apply Or.inr
    intro c hc
    rcases (h.of_mem_children hn hc).typeOf?_cases with hnone | hnumeric
    . exact absurd ⟨c, hc, hnone⟩ huntyped
    . exact hnumeric

theorem typeOf?_eq_none_iff_of_numeric (hn : n.isArithmetic = true)
    (h : ∀ c ∈ n.children, ∃ t, s.typeOf? c = some (.numeric t))
    : s.typeOf? n = none ↔ n.IsUnsupported s := by
  cases n with
  | binary span left op right =>
    obtain ⟨t, hl⟩ := h left List.mem_cons_self
    obtain ⟨u, hr⟩ := h right (.tail _ List.mem_cons_self)
    rw [Scope.typeOf?_binary hl hr, isUnsupported_binary hl hr, Option.map_eq_none_iff]
  | negation span operand =>
    obtain ⟨t, ho⟩ := h operand List.mem_cons_self
    rw [Scope.typeOf?_negation ho, isUnsupported_negation ho, Option.map_eq_none_iff]
  | _ => contradiction

theorem typeOf?_eq_none_iff_children (hn : n.isArithmetic = true) (hleaves : n.HasNumericLeaves s)
    : s.typeOf? n = none ↔ n.IsUnsupported s ∨ ∃ c ∈ n.children, s.typeOf? c = none := by
  rcases hleaves.children_cases hn with ⟨c, hc, hnone⟩ | hnumeric
  . simp only [typeOf?_eq_none_of_untyped hn hc hnone, true_iff]
    exact .inr ⟨c, hc, hnone⟩
  . have htyped : ¬∃ c ∈ n.children, s.typeOf? c = none := by
      rintro ⟨c, hc, hnone⟩
      obtain ⟨t, ht⟩ := hnumeric c hc
      rw [hnone] at ht
      contradiction
    rw [typeOf?_eq_none_iff_of_numeric hn hnumeric, or_iff_left htyped]

theorem typeOf?_eq_none_iff_exists_isUnsupported (hleaves : e.HasNumericLeaves s)
    : s.typeOf? e = none ↔ ∃ n ∈ e.arithmeticNodes, n.IsUnsupported s := by
  induction e using induction_children with
  | step e ih =>
    cases he : e.isArithmetic with
    | false =>
      obtain ⟨t, ht⟩ := hleaves.of_leaf he
      simp [arithmeticNodes_of_leaf he, ht]
    | true =>
      rw [typeOf?_eq_none_iff_children he hleaves]
      constructor
      . rw [arithmeticNodes_eq_cons he]
        rintro (h | ⟨c, hc, h⟩)
        . exact ⟨e, List.mem_cons_self, h⟩
        . obtain ⟨n, hn, hunsupported⟩ := (ih c hc (hleaves.of_mem_children he hc)).mp h
          exact ⟨n, .tail _ (List.mem_flatMap_of_mem hc hn), hunsupported⟩
      . rintro ⟨n, hn, h⟩
        obtain ⟨-, rfl | ⟨c, hc, hn⟩⟩ := mem_arithmeticNodes_cases hn
        . exact .inl h
        . exact .inr ⟨c, hc, (ih c hc (hleaves.of_mem_children he hc)).mpr ⟨n, hn, h⟩⟩

theorem not_isUnsupported_below {c : Expr} (hleaves : n.HasNumericLeaves s)
    (hn : n.isArithmetic = true) (h : n.IsUnsupported s) (hc : c ∈ n.children)
    : ∀ m ∈ c.arithmeticNodes, ¬m.IsUnsupported s := by
  intro m hm hmunsupported
  have hnone := (typeOf?_eq_none_iff_exists_isUnsupported (hleaves.of_mem_children hn hc)).mpr
    ⟨m, hm, hmunsupported⟩
  exact not_isUnsupported_of_untyped hc hnone h

end Expr

namespace Checker

variable (c : Checker) (r : Resolver) {n : Expr}

/-- The error that a node's operator is unsupported, and nothing else, is said about the node. -/
def Reports (n : Expr) : Prop :=
  ∃ message, (c.checkNode n r).1 = [⟨.error, .unsupportedOperator, message, none, some n.span⟩]

theorem checkNode_of_untyped {x : Expr} (hn : n.isArithmetic = true) (hx : x ∈ n.children)
    (h : r.scope.typeOf? x = none) : (c.checkNode n r).1 = [] := by
  have hoperand : r.scope.operandType? x = none := by
    simp [Scope.operandType?, Scope.operandOf, h]
  cases n with
  | binary span left op right =>
    simp only [checkNode, checkBinary_eq]
    simp only [Expr.children, List.mem_cons, List.not_mem_nil, or_false] at hx
    rcases hx with rfl | rfl
    . rw [hoperand]
    . rw [hoperand]
      cases r.scope.operandType? left <;> rfl
  | negation span operand =>
    simp only [Expr.children, List.mem_cons, List.not_mem_nil, or_false] at hx
    subst hx
    simp only [checkNode, checkUnary_eq, hoperand]
  | _ => contradiction

theorem checkOperands_binary (span : Span) (op : BinaryOp) (left right : OperandType)
    : c.checkOperands span (.binary op) left (some right) =
        match Promotion.binary? op left.type right.type with
        | some _ => []
        | none =>
          let error := OperatorError.undefined ⟨.binary op, left.type, some right.type⟩
          [⟨.error, .unsupportedOperator, error.message, none, some span⟩] := by
  simp only [checkOperands, Lowering.resolve, Lowering.binary]
  cases Promotion.binary? op left.type right.type with
  | some promotion => simp only [Lowering.ofPromotion_diagnostic]
  | none => rfl

theorem checkOperands_negate (span : Span) (operand : OperandType)
    : c.checkOperands span .negate operand none =
        match Promotion.negation? operand.type with
        | some _ => []
        | none =>
          let error := OperatorError.undefined ⟨.negation, operand.type, none⟩
          [⟨.error, .unsupportedOperator, error.message, none, some span⟩] := by
  simp only [checkOperands, Lowering.resolve, Lowering.negate]
  cases Promotion.negation? operand.type <;> rfl

theorem checkNode_of_numeric (hn : n.isArithmetic = true)
    (h : ∀ x ∈ n.children, ∃ t, r.scope.typeOf? x = some (.numeric t))
    : (n.IsUnsupported r.scope → c.Reports r n) ∧
        (¬n.IsUnsupported r.scope → (c.checkNode n r).1 = []) := by
  unfold Reports
  cases n with
  | binary span left op right =>
    obtain ⟨t, hl⟩ := h left List.mem_cons_self
    obtain ⟨u, hr⟩ := h right (.tail _ List.mem_cons_self)
    simp only [checkNode, checkBinary_eq, Scope.operandType?_of_numeric hl,
      Scope.operandType?_of_numeric hr, checkOperands_binary, Scope.operandType_type,
      Expr.isUnsupported_binary hl hr]
    cases Promotion.binary? op t u with
    | some promotion => simp
    | none => exact ⟨fun _ => ⟨_, rfl⟩, fun h => absurd rfl h⟩
  | negation span operand =>
    obtain ⟨t, ho⟩ := h operand List.mem_cons_self
    simp only [checkNode, checkUnary_eq, Scope.operandType?_of_numeric ho,
      checkOperands_negate, Scope.operandType_type, Expr.isUnsupported_negation ho]
    cases Promotion.negation? t with
    | some promotion => simp
    | none => exact ⟨fun _ => ⟨_, rfl⟩, fun h => absurd rfl h⟩
  | _ => contradiction

theorem checkNode_of_arithmetic (hn : n.isArithmetic = true)
    (hleaves : n.HasNumericLeaves r.scope)
    : (n.IsUnsupported r.scope → c.Reports r n) ∧
        (¬n.IsUnsupported r.scope → (c.checkNode n r).1 = []) := by
  rcases hleaves.children_cases hn with ⟨x, hx, hnone⟩ | hnumeric
  . refine ⟨?_, ?_⟩
    . intro h
      exact absurd h (Expr.not_isUnsupported_of_untyped hx hnone)
    . intro _
      exact c.checkNode_of_untyped r hn hx hnone
  . exact c.checkNode_of_numeric r hn hnumeric

theorem reports_iff_isUnsupported (hn : n.isArithmetic = true)
    (hleaves : n.HasNumericLeaves r.scope) : c.Reports r n ↔ n.IsUnsupported r.scope := by
  obtain ⟨hreports, hsilent⟩ := c.checkNode_of_arithmetic r hn hleaves
  refine ⟨?_, hreports⟩
  rintro ⟨message, hmessage⟩
  apply Classical.byContradiction
  intro h
  rw [hsilent h] at hmessage
  contradiction

variable {e : Expr}

theorem checkNode_of_mem_arithmeticNodes (hleaves : e.HasNumericLeaves r.scope)
    (hn : n ∈ e.arithmeticNodes)
    : (n.IsUnsupported r.scope → c.Reports r n) ∧
        (¬n.IsUnsupported r.scope → (c.checkNode n r).1 = []) :=
  c.checkNode_of_arithmetic r (Expr.isArithmetic_of_mem_arithmeticNodes hn)
    (hleaves.of_mem_arithmeticNodes hn)

theorem typeOf?_eq_none_iff_exists_reports (hleaves : e.HasNumericLeaves r.scope)
    : r.scope.typeOf? e = none ↔ ∃ n ∈ e.arithmeticNodes, c.Reports r n := by
  rw [Expr.typeOf?_eq_none_iff_exists_isUnsupported hleaves]
  apply exists_congr
  intro n
  apply and_congr_right
  intro hn
  rw [c.reports_iff_isUnsupported r (Expr.isArithmetic_of_mem_arithmeticNodes hn)
    (hleaves.of_mem_arithmeticNodes hn)]

theorem countP_path_le_one (hleaves : e.HasNumericLeaves r.scope) {path : List Expr}
    (hpath : path ∈ e.arithmeticPaths)
    : path.countP (fun n => !(c.checkNode n r).1.isEmpty) ≤ 1 := by
  induction e using Expr.induction_children generalizing path with
  | step e ih =>
    rcases Expr.mem_arithmeticPaths_cases hpath with rfl | ⟨he, x, hx, rest, hrest, rfl⟩
    . simp
    . have hleavesx := hleaves.of_mem_children he hx
      rw [List.countP_cons]
      by_cases h : e.IsUnsupported r.scope
      . -- The operands of a reported operator have types, so nothing below it is reported.
        have hnone : rest.countP (fun n => !(c.checkNode n r).1.isEmpty) = 0 := by
          rw [List.countP_eq_zero]
          intro n hn
          have hn := Expr.mem_arithmeticNodes_of_mem_path hrest hn
          have hsilent := (c.checkNode_of_mem_arithmeticNodes r hleavesx hn).2
          simp [hsilent (Expr.not_isUnsupported_below hleaves he h hx n hn)]
        rw [hnone]
        split <;> omega
      . rw [(c.checkNode_of_arithmetic r he hleaves).2 h]
        exact ih x hx hleavesx hrest

end Checker

theorem unsupported_operators_reported_once_per_path (c : Checker) (r : Resolver) (e : Expr)
    (hleaves : e.HasNumericLeaves r.scope)
    : ((c.checkExpr e r).1 = e.nodes.flatMap (fun n => (c.checkNode n r).1) ∧
          e.arithmeticNodes.Sublist e.nodes) ∧
        (∀ n ∈ e.arithmeticNodes,
          (n.IsUnsupported r.scope → c.Reports r n) ∧
            (¬n.IsUnsupported r.scope → (c.checkNode n r).1 = [])) ∧
        ((r.resolveType e).1 = none ↔ ∃ n ∈ e.arithmeticNodes, c.Reports r n) ∧
        ∀ path ∈ e.arithmeticPaths,
          path.countP (fun n => !(c.checkNode n r).1.isEmpty) ≤ 1 := by
  refine ⟨⟨c.checkExpr_diagnostics r e, e.arithmeticNodes_sublist_nodes⟩, ?_, ?_, ?_⟩
  . intro n hn
    exact c.checkNode_of_mem_arithmeticNodes r hleaves hn
  . exact c.typeOf?_eq_none_iff_exists_reports r hleaves
  . intro path hpath
    exact c.countP_path_le_one r hleaves hpath

/-- Every issue that can be ignored is. -/
def Checker.lenient : Checker := ⟨.empty, fun _ => some .ignore⟩

def Resolver.totals : Resolver :=
  .ofScope (Scope.empty.declareNonNull "total" (.numeric .bigInteger))

def Expr.total : Expr := .var .zero "total"

/-- `total ** 2` -/
def Expr.square : Expr := .binary ⟨1, 9⟩ .total .pow (.intLit .zero 2)

/-- `-(total ** 2)` -/
def Expr.negatedSquare : Expr := .negation .zero .square

/-- `-(total ** 2) + -total` -/
def Expr.twoFaults : Expr := .binary .zero .negatedSquare .add (.negation ⟨13, 18⟩ .total)

theorem twoFaults_reports_square_and_not_its_negation
    : Checker.lenient.Reports .totals .square ∧
        (Checker.lenient.checkNode .negatedSquare Resolver.totals).1 = [] ∧
        (Resolver.totals.resolveType .twoFaults).1 = none := by
  have hleaves : Expr.twoFaults.HasNumericLeaves Resolver.totals.scope := by
    rintro leaf (_ | ⟨_, _ | ⟨_, _ | ⟨_, ⟨⟩⟩⟩⟩) <;> exact ⟨_, rfl⟩
  obtain ⟨-, hnodes, htype, -⟩ :=
    unsupported_operators_reported_once_per_path .lenient .totals .twoFaults hleaves
  have hsquare : Expr.square ∈ Expr.twoFaults.arithmeticNodes := .tail _ (.tail _ (.head _))
  have hreports : Checker.lenient.Reports .totals .square := by
    apply (hnodes .square hsquare).1
    refine ⟨rfl, ?_, .total, .head _, .bigInteger, rfl, rfl⟩
    rintro x (_ | ⟨_, _ | ⟨_, ⟨⟩⟩⟩) <;> exact ⟨_, rfl⟩
  refine ⟨hreports, ?_, htype.mpr ⟨.square, hsquare, hreports⟩⟩
  apply (hnodes .negatedSquare (.tail _ (.head _))).2
  rintro ⟨-, htyped, -⟩
  obtain ⟨type, hsquaretype⟩ := htyped .square (.head _)
  contradiction

end OperatorLowering
