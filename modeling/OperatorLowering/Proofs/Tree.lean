import OperatorLowering.Expr

/-!
Induction over expressions by their children, and how the nodes of an expression and of its parts
are related.
-/

namespace OperatorLowering

namespace Expr

theorem sizeOf_lt_of_mem_children {c e : Expr} (h : c ∈ e.children) : sizeOf c < sizeOf e := by
  -- Parts in a list are smaller than the list; an optional part is split off first.
  have mem_lt {es : List Expr} (h : c ∈ es) : sizeOf c < sizeOf es := List.sizeOf_lt_of_mem h
  cases e with
  | call span receiver feature args =>
    cases receiver with
    | none =>
      have := mem_lt (by simpa [children] using h : c ∈ args)
      simp only [call.sizeOf_spec]
      omega
    | some receiver =>
      simp only [children, Option.toList_some, List.cons_append, List.nil_append,
        List.mem_cons] at h
      rcases h with rfl | h
      . simp only [call.sizeOf_spec, Option.some.sizeOf_spec]
        omega
      . have := mem_lt h
        simp only [call.sizeOf_spec]
        omega
  | block span statements =>
    have : sizeOf c < sizeOf statements := mem_lt h
    simp only [block.sizeOf_spec]
    omega
  | conditional span condition thenBranch elseBranch =>
    cases elseBranch <;>
      simp only [children, Option.toList_none, Option.toList_some, List.mem_cons, List.not_mem_nil,
        or_false] at h <;>
      rcases h with rfl | rfl | rfl <;>
      simp only [conditional.sizeOf_spec, Option.some.sizeOf_spec] <;>
      omega
  | returnValue span value =>
    cases value with
    | none => simp [children] at h
    | some value =>
      simp only [children, Option.toList_some, List.mem_cons, List.not_mem_nil, or_false] at h
      subst h
      simp only [returnValue.sizeOf_spec, Option.some.sizeOf_spec]
      omega
  | tryCatch span body handlers finalizer =>
    simp only [children, List.cons_append, List.mem_cons, List.mem_append,
      Option.mem_toList] at h
    rcases h with rfl | h | h
    . simp only [tryCatch.sizeOf_spec]
      omega
    . have := mem_lt h
      simp only [tryCatch.sizeOf_spec]
      omega
    . subst h
      simp only [tryCatch.sizeOf_spec, Option.some.sizeOf_spec]
      omega
  | binary | negation | cast | throwValue | whileLoop | doWhileLoop | synchronized =>
    simp only [children, List.mem_cons, List.not_mem_nil, or_false] at h
    rcases h with rfl | rfl <;> simp <;> omega
  | _ => simp [children] at h

/-- What holds of every expression all of whose children satisfy it holds of all expressions. -/
theorem induction_children {P : Expr → Prop} (step : ∀ e, (∀ c ∈ e.children, P c) → P e)
    (e : Expr) : P e := by
  apply step
  intro c hc
  have := sizeOf_lt_of_mem_children hc
  exact induction_children step c
termination_by sizeOf e

@[simp]
theorem mem_nodes_self (e : Expr) : e ∈ e.nodes := by
  rw [nodes_eq_cons]
  apply List.mem_cons_self

theorem mem_nodes_of_mem_children {n c e : Expr} (hc : c ∈ e.children) (hn : n ∈ c.nodes)
    : n ∈ e.nodes := by
  rw [nodes_eq_cons]
  apply List.mem_cons_of_mem
  exact List.mem_flatMap_of_mem hc hn

theorem mem_nodes_cases {n e : Expr} (h : n ∈ e.nodes)
    : n = e ∨ ∃ c ∈ e.children, n ∈ c.nodes := by
  rw [nodes_eq_cons] at h
  simpa [List.mem_flatMap] using h

theorem mem_nodes_trans {m n e : Expr} (hm : m ∈ n.nodes) (hn : n ∈ e.nodes) : m ∈ e.nodes := by
  induction e using induction_children with
  | step e ih =>
    rcases mem_nodes_cases hn with rfl | ⟨c, hc, hn⟩
    . exact hm
    . exact mem_nodes_of_mem_children hc (ih c hc hn)

end Expr

end OperatorLowering
