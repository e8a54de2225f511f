import OperatorLowering.Proofs.FixedSlots
import OperatorLowering.Proofs.RegistryHistory

/-!
The exit analysis grows with the registry: a callable that is declared an exit in addition takes no
verdict back, so it can only shorten the list of actions that fall through.
-/

namespace OperatorLowering

theorem Registry.isExitSlot_mono {small large : Registry}
    (h : ∀ id, small.isExit id = true → large.isExit id = true)
    {slot : FeatureSlot} (hslot : small.isExitSlot slot = true) : large.isExitSlot slot = true := by
  cases slot with
  | linked id => exact h id hslot
  | proxy => contradiction

variable {small large : ExitRules} {e : Expr}

/-- Every call that ends the agent by the first rules does so by the second ones. -/
def ExitRules.Included (small large : ExitRules) : Prop :=
  ∀ call, small.isExitCall call = true → large.isExitCall call = true

namespace ExitRules.Included

theorem of_registry {small large : Registry}
    (h : ∀ id, small.isExit id = true → large.isExit id = true)
    (slotOf : FeatureCall → FeatureSlot) : Included ⟨small, slotOf⟩ ⟨large, slotOf⟩ := by
  intro call hcall
  exact Registry.isExitSlot_mono h hcall

theorem of_empty (rules : ExitRules) : Included Registry.empty rules := by
  rintro ⟨receiver, feature, args⟩ hcall
  cases feature <;> contradiction

end ExitRules.Included

namespace Expr

-- The one negated test, for breaks out of a `while` loop, does not depend on the registry.
theorem isDefiniteExit_mono (h : small.Included large) (hexit : e.isDefiniteExit small = true)
    : e.isDefiniteExit large = true := by
  induction e using induction_children with
  | step e ih =>
    cases e with
    | returnValue | throwValue => rfl
    | block span statements =>
      rw [isDefiniteExit_block, List.any_eq_true] at hexit ⊢
      obtain ⟨s, hs, hexit⟩ := hexit
      exact ⟨s, hs, ih s hs hexit⟩
    | conditional span condition thenBranch elseBranch =>
      cases elseBranch with
      | none => contradiction
      | some elseBranch =>
        rw [isDefiniteExit_conditional, Bool.and_eq_true] at hexit ⊢
        refine ⟨?_, ?_⟩
        . exact ih thenBranch (by simp [children]) hexit.1
        . exact ih elseBranch (by simp [children]) hexit.2
    | tryCatch span body handlers finalizer =>
      rw [isDefiniteExit_tryCatch, Bool.or_eq_true, Bool.and_eq_true, List.all_eq_true] at hexit ⊢
      rcases hexit with hexit | ⟨hbody, hhandlers⟩
      . left
        cases finalizer with
        | none => contradiction
        | some finalizer => exact ih finalizer (by simp [children]) hexit
      . right
        refine ⟨ih body (by simp [children]) hbody, ?_⟩
        intro handler hmem
        exact ih handler (by simp [children, hmem]) (hhandlers handler hmem)
    | synchronized span lock body => exact ih body (by simp [children]) hexit
    | doWhileLoop span body condition => exact ih body (by simp [children]) hexit
    | whileLoop => exact hexit
    | call => exact h _ hexit
    | _ => contradiction

theorem isIntentionalExit_mono (h : small.Included large) (hexit : e.isIntentionalExit small = true)
    : e.isIntentionalExit large = true := by
  induction e using induction_children with
  | step e ih =>
    cases e with
    | returnValue | throwValue => rfl
    | block span statements =>
      rw [isIntentionalExit_block, List.any_eq_true] at hexit ⊢
      obtain ⟨s, hs, hexit⟩ := hexit
      exact ⟨s, hs, ih s hs hexit⟩
    | synchronized span lock body => exact ih body (by simp [children]) hexit
    | call => exact h _ hexit
    | _ => contradiction

end Expr

theorem Item.fallsThrough_anti (h : small.Included large) {item : Item}
    (hfalls : item.fallsThrough large = true) : item.fallsThrough small = true := by
  simp only [fallsThrough, ExitVerdict.needsReturn, ExitVerdict.ofExpr, Bool.and_eq_true,
    Bool.not_eq_true', ← Bool.not_eq_true] at hfalls ⊢
  refine ⟨hfalls.1, ?_⟩
  intro hexit
  exact hfalls.2 (Expr.isDefiniteExit_mono h hexit)

theorem Program.fallThroughTitles_sublist {small large : Registry}
    (h : ∀ id, small.isExit id = true → large.isExit id = true) (program : Program)
    : (program.fallThroughTitles large).Sublist (program.fallThroughTitles small) := by
  have hincluded : ExitRules.Included small large := .of_registry h _
  rw [fallThroughTitles_eq, fallThroughTitles_eq]
  apply List.Sublist.map
  have : program.items.filter (Item.fallsThrough large) =
      (program.items.filter (Item.fallsThrough small)).filter (Item.fallsThrough large) := by
    rw [List.filter_filter]
    apply List.filter_congr
    intro item _
    cases hfalls : item.fallsThrough large with
    | false => rfl
    | true => rw [Item.fallsThrough_anti hincluded hfalls, Bool.true_and]
  rw [this]
  apply List.filter_sublist

theorem Config.isExit_registry_iff {config : Config} {id : CallableId}
    : config.registry.isExit id = true ↔
        id.name ∈ config.callables ∨ Registry.builtin.isExit id = true := by
  have hmarks : .exit id ∈ config.marks ↔ id.name ∈ config.callables := by
    simp only [marks, List.mem_append, List.mem_map, reduceCtorEq, and_false, exists_false,
      or_false]
    constructor
    . rintro ⟨name, hname, ⟨⟩⟩
      exact hname
    . intro h
      exact ⟨id.name, h, rfl⟩
  rw [config.reflects_registry.isExit_iff, Registry.reflects_builtin.isExit_iff, List.mem_append,
    hmarks, or_comm]

theorem Config.isExit_registry_mono {small large : Config}
    (h : small.callables ⊆ large.callables) (id : CallableId)
    (hid : small.registry.isExit id = true) : large.registry.isExit id = true := by
  rw [isExit_registry_iff] at hid ⊢
  exact hid.imp_left (h ·)

/--
Both verdicts are kept when callables are added to the registry; in particular what the structure of
a statement shows alone holds with any registry. With more callables configured fewer actions fall
through, in the same order.
-/
theorem exit_verdicts_grow_with_registry
    : (∀ small large : Registry, (∀ id, small.isExit id = true → large.isExit id = true) →
          ∀ (slotOf : FeatureCall → FeatureSlot) (e : Expr),
            (e.isDefiniteExit ⟨small, slotOf⟩ = true → e.isDefiniteExit ⟨large, slotOf⟩ = true) ∧
              (e.isIntentionalExit ⟨small, slotOf⟩ = true →
                e.isIntentionalExit ⟨large, slotOf⟩ = true)) ∧
        (∀ (rules : ExitRules) (e : Expr),
          (e.isDefiniteExit Registry.empty = true → e.isDefiniteExit rules = true) ∧
            (e.isIntentionalExit Registry.empty = true → e.isIntentionalExit rules = true)) ∧
        ∀ (program : Program) (small large : Config), small.callables ⊆ large.callables →
          (program.fallThroughTitles large.registry).Sublist
            (program.fallThroughTitles small.registry) := by
  refine ⟨?_, ?_, ?_⟩
  . intro small large h slotOf e
    have hincluded := ExitRules.Included.of_registry h slotOf
    exact ⟨Expr.isDefiniteExit_mono hincluded, Expr.isIntentionalExit_mono hincluded⟩
  . intro rules e
    have hincluded := ExitRules.Included.of_empty rules
    exact ⟨Expr.isDefiniteExit_mono hincluded, Expr.isIntentionalExit_mono hincluded⟩
  . intro program small large h
    exact program.fallThroughTitles_sublist (Config.isExit_registry_mono h)

/-- `def f : int { try { stop() } catch (..) { stop() } }` and `def g : int { }` -/
def Program.stopping : Program :=
  let type : Spanned TypeName := ⟨.numeric (.primitive .int), .zero⟩
  let stop : Expr := .call .zero none (.linked ⟨"my.Capacity.stop"⟩) []
  ⟨[.action ⟨⟨"f", .zero⟩, [], some type, .tryCatch .zero stop [stop] none, .zero⟩,
    .action ⟨⟨"g", .zero⟩, [], some type, .block .zero [], .zero⟩], []⟩

theorem stopping_falls_through_less_with_stop
    : let large : Config := { Config.empty with callables := ["my.Capacity.stop"] }
      Program.stopping.fallThroughTitles Config.empty.registry = ["def f", "def g"] ∧
        Program.stopping.fallThroughTitles large.registry = ["def g"] ∧
        (Program.stopping.fallThroughTitles large.registry).Sublist
          (Program.stopping.fallThroughTitles Config.empty.registry) := by
  intro large
  refine ⟨by decide, by decide, ?_⟩
  exact exit_verdicts_grow_with_registry.2.2 .stopping .empty large (List.nil_subset _)

end OperatorLowering
