import OperatorLowering.Config.Reader
import OperatorLowering.Proofs.Checking
import OperatorLowering.Proofs.StaticType

/-!
Configured levels of issues. A check under configured levels says what the same check says without
them, each diagnostic re-levelled or dropped on its own; nothing that is an error by default is
touched.
-/

namespace OperatorLowering

/-- Is the diagnostic about a discouraged call that was declared with a level of its own? -/
def Registry.setsLevel (r : Registry) (d : Diagnostic) : Bool :=
  d.code == .discouragedCall &&
    (d.accessor.bind fun name => r.discouragedCall? (.linked ⟨name⟩)).any (·.level != .preference)

/-- What configured levels make of one diagnostic, or nothing if they drop it. -/
def Overrides.relevel? (o : Overrides) (r : Registry) (d : Diagnostic) : Option Diagnostic :=
  if d.code = .invalidCast ∨ d.code = .unsupportedOperator ∨ r.setsLevel d = true then
    some d
  else
    match o d.code with
    | .none => some d
    | some .error => some { d with severity := .error }
    | some .warning => some { d with severity := .warning }
    | some .info => some { d with severity := .info }
    | some .ignore => .none

/-- Every configured name is the name of an issue. -/
def Config.NamesIssues (config : Config) : Prop :=
  ∀ entry ∈ config.severity, ∃ code : IssueCode, code.name = entry.1

/--
A diagnostic of an operator on its operands: at its default severity, and neither about a call nor
about the statements of a block.
-/
structure Diagnostic.IsOperatorIssue (d : Diagnostic) : Prop where
  severity : d.severity = d.code.defaultSeverity
  code : d.code ≠ .discouragedCall
  reachable : d.code ≠ .unreachableCode

namespace CastPlan

theorem isOperatorIssue_plan {source : NumericType} {target : TypeName} {d : Diagnostic}
    (h : (plan source target).diagnostic = some d) : d.IsOperatorIssue := by
  generalize hplan : plan source target = p at h
  rcases plan_cases source target with ⟨-, hconverts⟩ | ⟨-, hinvalid⟩
  . rw [hplan] at hconverts
    cases hconverts with
    | silent => contradiction
    | _ =>
      cases h
      exact ⟨rfl, nofun, nofun⟩
  . rw [← hplan, hinvalid] at h
    cases h
    exact ⟨rfl, nofun, nofun⟩

end CastPlan

theorem OperatorError.isOperatorIssue_diagnostic (e : OperatorError)
    : e.diagnostic.IsOperatorIssue :=
  ⟨rfl, nofun, nofun⟩

theorem Lowering.isOperatorIssue_resolve {operator : Operator} {left : OperandType}
    {right : Option OperandType} {l : Lowering} {d : Diagnostic}
    (hl : resolve operator left right = .ok l) (hd : l.diagnostic = some d)
    : d.IsOperatorIssue := by
  obtain ⟨op, r, promotion, -, -, -, rfl⟩ | ⟨-, -, hnegate⟩ | ⟨target, -, -, rfl⟩ :=
    resolve_cases hl
  . rw [ofPromotion_diagnostic] at hd
    contradiction
  . obtain ⟨promotion, -, rfl⟩ := exists_of_negate_eq_ok hnegate
    contradiction
  . exact CastPlan.isOperatorIssue_plan hd

theorem IssueCode.isSome_ofName?_iff {name : String}
    : (IssueCode.ofName? name).isSome = true ↔ ∃ code : IssueCode, code.name = name := by
  simp only [ofName?, List.find?_isSome, beq_iff_eq]
  constructor
  . rintro ⟨code, -, hname⟩
    exact ⟨code, hname⟩
  . rintro ⟨code, hname⟩
    exact ⟨code, by cases code <;> decide, hname⟩

theorem IssueCode.defaultSeverity_eq_error_iff {code : IssueCode}
    : code.defaultSeverity = .error ↔ code = .invalidCast ∨ code = .unsupportedOperator := by
  cases code <;> decide

namespace Overrides

theorem relevel?_none (r : Registry) (d : Diagnostic) : Overrides.none.relevel? r d = some d := by
  unfold relevel?
  split <;> rfl

theorem relevel?_of_error (o : Overrides) (r : Registry) {d : Diagnostic}
    (h : d.code = .invalidCast ∨ d.code = .unsupportedOperator) : o.relevel? r d = some d := by
  rcases h with h | h <;> simp [relevel?, h]

end Overrides

namespace Checker

variable {registry : Registry} {d : Diagnostic} {configurable : Bool}

theorem emit_eq_relevel? {c : Checker} (h : configurable = !c.registry.setsLevel d)
    : c.emit configurable d = (c.overrides.relevel? c.registry d).toList := by
  by_cases herror : d.code = .invalidCast ∨ d.code = .unsupportedOperator
  . rw [Overrides.relevel?_of_error _ _ herror]
    simp [emit, IssueCode.defaultSeverity_eq_error_iff.mpr herror]
  . have hdefault : d.code.defaultSeverity ≠ .error := by
      rwa [ne_eq, IssueCode.defaultSeverity_eq_error_iff]
    unfold emit Overrides.relevel?
    cases hsets : c.registry.setsLevel d with
    | true => simp [h, hsets]
    | false =>
      rw [not_or] at herror
      simp only [h, hsets, hdefault, herror, Bool.not_false, Bool.true_and, bne_iff_ne, ne_eq,
        not_false_eq_true, ↓reduceIte, Bool.false_eq_true, or_self]
      cases c.overrides d.code with
      | none => rfl
      | some level => cases level <;> rfl

/--
Whatever levels are configured, the same diagnostic, if any, is reported under them. An invalid cast
or an unsupported operator is an error.
-/
def ReportsAtMostOne (registry : Registry) (report : Overrides → List Diagnostic) : Prop :=
  ∃ d? : Option Diagnostic,
    (∀ d, d? = some d → d.code = .invalidCast ∨ d.code = .unsupportedOperator →
        d.severity = .error) ∧
      ∀ o : Overrides, report o = (d?.bind (o.relevel? registry)).toList

theorem reportsAtMostOne_nil : ReportsAtMostOne registry fun _ => [] :=
  ⟨none, nofun, fun _ => rfl⟩

theorem reportsAtMostOne_emit (h : configurable = !registry.setsLevel d)
    (herror : d.code = .invalidCast ∨ d.code = .unsupportedOperator → d.severity = .error)
    : ReportsAtMostOne registry fun o => emit ⟨registry, o⟩ configurable d := by
  refine ⟨some d, ?_, ?_⟩
  . rintro _ ⟨⟩
    exact herror
  . intro o
    exact emit_eq_relevel? h

theorem reportsAtMostOne_emit_operatorIssue (h : d.IsOperatorIssue) (span : Span)
    : ReportsAtMostOne registry fun o => emit ⟨registry, o⟩ true (d.withSpan span) := by
  apply reportsAtMostOne_emit
  . simp [Registry.setsLevel, Diagnostic.withSpan, h.code]
  . intro hcode
    exact h.severity.trans (IssueCode.defaultSeverity_eq_error_iff.mpr hcode)

theorem reportsAtMostOne_checkOperands (span : Span) (operator : Operator) (left : OperandType)
    (right : Option OperandType)
    : ReportsAtMostOne registry fun o => checkOperands ⟨registry, o⟩ span operator left right := by
  unfold checkOperands
  cases hl : Lowering.resolve operator left right with
  | error e => exact reportsAtMostOne_emit_operatorIssue e.isOperatorIssue_diagnostic span
  | ok l =>
    cases hd : l.diagnostic with
    | none => simpa only [hd] using reportsAtMostOne_nil
    | some d =>
      simpa only [hd] using
        reportsAtMostOne_emit_operatorIssue (Lowering.isOperatorIssue_resolve hl hd) span

theorem reportsAtMostOne_checkSlot (span : Span) (slot : FeatureSlot)
    : ReportsAtMostOne registry fun o => checkSlot ⟨registry, o⟩ span slot := by
  cases slot with
  | proxy => exact reportsAtMostOne_nil
  | linked id =>
    simp only [checkSlot]
    cases hissue : registry.discouragedCall? (.linked id) with
    | none => exact reportsAtMostOne_nil
    | some issue =>
      apply reportsAtMostOne_emit
      . -- The diagnostic names the callable, so the look-up finds the same declaration again.
        have : registry.setsLevel ((discouragedDiagnostic id issue.message
            (callSeverity issue.level).1).withSpan span) = (issue.level != .preference) := by
          simp [Registry.setsLevel, discouragedDiagnostic, Diagnostic.withSpan, Diagnostic.ofCode,
            hissue]
        rw [this]
        cases issue.level <;> rfl
      . rintro (h | h) <;> contradiction

theorem reportsAtMostOne_unreachableCode (span : Span)
    : ReportsAtMostOne registry fun o => emit ⟨registry, o⟩ true (.unreachableCode span) := by
  apply reportsAtMostOne_emit
  . rfl
  . rintro (h | h) <;> contradiction

section Resolver

variable {ρ : Type} [TypeResolution ρ]

-- The resolver is asked the same questions in the same order whatever is configured, so it gives
-- the same answers and ends up the same.
theorem exists_report_checkNode (registry : Registry) (e : Expr) (r : ρ)
    : ∃ report r', ReportsAtMostOne registry report ∧
        ∀ o : Overrides, checkNode ⟨registry, o⟩ e r = (report o, r') := by
  cases e with
  | binary span left op right =>
    simp only [checkNode, checkBinary]
    rcases TypeResolution.resolveOperand r left with ⟨_ | left, r'⟩
    . exact ⟨_, r', reportsAtMostOne_nil, fun _ => rfl⟩
    . dsimp only
      rcases TypeResolution.resolveOperand r' right with ⟨_ | right, r'⟩
      . exact ⟨_, r', reportsAtMostOne_nil, fun _ => rfl⟩
      . exact ⟨_, r', reportsAtMostOne_checkOperands span (.binary op) left (some right),
          fun _ => rfl⟩
  | negation span operand | cast span operand target =>
    simp only [checkNode, checkUnary]
    rcases TypeResolution.resolveOperand r operand with ⟨_ | operand, r'⟩
    . exact ⟨_, r', reportsAtMostOne_nil, fun _ => rfl⟩
    . exact ⟨_, r', reportsAtMostOne_checkOperands span _ operand none, fun _ => rfl⟩
  | call span receiver feature args =>
    exact ⟨_, _, reportsAtMostOne_checkSlot span _, fun _ => rfl⟩
  | block span statements =>
    simp only [checkNode, checkBlock]
    rcases firstUnreachable? registry statements r with ⟨_ | next, r'⟩
    . exact ⟨_, r', reportsAtMostOne_nil, fun _ => rfl⟩
    . exact ⟨_, r', reportsAtMostOne_unreachableCode next.span, fun _ => rfl⟩
  | _ => exact ⟨_, r, reportsAtMostOne_nil, fun _ => rfl⟩

theorem checkNode_eq_filterMap (registry : Registry) (o : Overrides) (e : Expr) (r : ρ)
    : checkNode ⟨registry, o⟩ e r =
        ((checkNode ⟨registry, .none⟩ e r).1.filterMap (o.relevel? registry),
          (checkNode ⟨registry, .none⟩ e r).2) := by
  obtain ⟨report, r', ⟨d?, -, hreport⟩, hnode⟩ := exists_report_checkNode registry e r
  rw [hnode o, hnode .none, hreport o, hreport .none]
  cases d? with
  | none => rfl
  | some d => cases h : o.relevel? registry d <;> simp [Overrides.relevel?_none, h]

theorem checkNodes_eq_filterMap (registry : Registry) (o : Overrides) (es : List Expr) (r : ρ)
    : checkNodes ⟨registry, o⟩ es r =
        ((checkNodes ⟨registry, .none⟩ es r).1.filterMap (o.relevel? registry),
          (checkNodes ⟨registry, .none⟩ es r).2) := by
  induction es generalizing r with
  | nil => rfl
  | cons e es ih =>
    simp only [checkNodes]
    rw [checkNode_eq_filterMap, ih, List.filterMap_append]

theorem severity_of_mem_checkNodes {es : List Expr} {r : ρ}
    (hd : d ∈ (checkNodes ⟨registry, .none⟩ es r).1)
    (h : d.code = .invalidCast ∨ d.code = .unsupportedOperator) : d.severity = .error := by
  induction es generalizing r with
  | nil => contradiction
  | cons e es ih =>
    simp only [checkNodes, List.mem_append] at hd
    rcases hd with hd | hd
    . obtain ⟨report, r', ⟨d?, herror, hreport⟩, hnode⟩ := exists_report_checkNode registry e r
      rw [hnode .none, hreport .none] at hd
      cases d? with
      | none => contradiction
      | some d' =>
        simp only [Option.bind_some, Overrides.relevel?_none, Option.toList_some,
          List.mem_singleton] at hd
        subst hd
        exact herror d rfl h
    . exact ih hd

end Resolver

theorem checkProgram_eq_filterMap (registry : Registry) (o : Overrides) (program : Program)
    : checkProgram ⟨registry, o⟩ program =
        (checkProgram ⟨registry, .none⟩ program).filterMap (o.relevel? registry) := by
  simp only [checkProgram, checkItem]
  rw [List.filterMap_flatMap]
  congr 1
  funext item
  rw [checkNodes_eq_filterMap]

theorem severity_of_mem_checkProgram {program : Program}
    (hd : d ∈ checkProgram ⟨registry, .none⟩ program)
    (h : d.code = .invalidCast ∨ d.code = .unsupportedOperator) : d.severity = .error := by
  obtain ⟨item, -, hd⟩ := List.mem_flatMap.mp hd
  exact severity_of_mem_checkNodes hd h

end Checker

namespace Config

variable {config plain : Config}

theorem unknownIssue?_eq_none_iff : config.unknownIssue? = none ↔ config.NamesIssues := by
  simp only [unknownIssue?, NamesIssues, Option.map_eq_none_iff, List.find?_eq_none,
    Option.isNone_iff_eq_none, ← ne_eq, ← Option.isSome_iff_ne_none,
    IssueCode.isSome_ofName?_iff]

theorem checkProgram_of_namesIssues (h : config.NamesIssues) (program : Program)
    : config.checkProgram program =
        .ok (Checker.checkProgram ⟨config.registry, config.overrides⟩ program) := by
  unfold checkProgram levels
  rw [unknownIssue?_eq_none_iff.mpr h]
  rfl

theorem namesIssues_of_ofText {text : String} (h : Config.ofText text = .ok config)
    : config.NamesIssues := by
  unfold ofText levels at h
  split at h
  . contradiction
  . next parsed _ =>
    split at h
    . contradiction
    . next hunknown =>
      cases h
      exact unknownIssue?_eq_none_iff.mp hunknown

theorem checkProgram_of_severity_nil (hseverity : plain.severity = [])
    (hregistry : plain.registry = config.registry) (program : Program)
    : plain.checkProgram program = .ok (Checker.checkProgram ⟨config.registry, .none⟩ program) := by
  have hnames : plain.NamesIssues := by
    intro entry hentry
    rw [hseverity] at hentry
    contradiction
  have hoverrides : plain.overrides = .none := by
    unfold overrides
    rw [hseverity]
    rfl
  rw [checkProgram_of_namesIssues hnames, hregistry, hoverrides]

end Config

/--
Configured levels act on each diagnostic of an item on its own, and leave the questions that the
resolver is asked as they are. So what a program has of invalid casts and unsupported operators is
reported, as errors, under every configuration that can be loaded and has the same declarations.
-/
theorem overrides_relevel_each_diagnostic
    : (∀ (ρ : Type) [TypeResolution ρ] (registry : Registry) (o : Overrides) (item : Item) (r : ρ),
          Checker.checkItem ⟨registry, o⟩ item r =
            ((Checker.checkItem ⟨registry, .none⟩ item r).1.filterMap (o.relevel? registry),
              (Checker.checkItem ⟨registry, .none⟩ item r).2)) ∧
        (∀ (text : String) (config : Config), Config.ofText text = .ok config →
          config.NamesIssues) ∧
        ∀ (program : Program) (config plain : Config), config.NamesIssues → plain.severity = [] →
          plain.registry = config.registry →
          let o : Overrides := fun code => config.severity.lookup code.name
          ∃ ds ds', plain.checkProgram program = .ok ds ∧ config.checkProgram program = .ok ds' ∧
            ds' = ds.filterMap (o.relevel? config.registry) ∧
            ∀ d ∈ ds, d.code = .invalidCast ∨ d.code = .unsupportedOperator →
              d ∈ ds' ∧ d.severity = .error := by
  refine ⟨?_, ?_, ?_⟩
  . intro ρ _ registry o item r
    apply Checker.checkNodes_eq_filterMap
  . intro text config htext
    exact Config.namesIssues_of_ofText htext
  . intro program config plain hnames hseverity hregistry o
    refine ⟨_, _, Config.checkProgram_of_severity_nil hseverity hregistry program,
      Config.checkProgram_of_namesIssues hnames program,
      Checker.checkProgram_eq_filterMap _ _ program, ?_⟩
    intro d hd hcode
    refine ⟨?_, Checker.severity_of_mem_checkProgram hd hcode⟩
    rw [Checker.checkProgram_eq_filterMap]
    exact List.mem_filterMap.mpr ⟨d, hd, Overrides.relevel?_of_error _ _ hcode⟩

/-- Drops every issue that can be dropped, and tries to drop invalid casts. -/
def Config.silencing : Config :=
  ⟨[], [], [⟨"my.Capacity.legacy", "use stop", .error⟩],
    IssueCode.all.map fun code => (code.name, .ignore)⟩

/-- `def f(x : AtomicLong) { x as AtomicLong; legacy(); x as boolean }` -/
def Program.castsAndCall : Program :=
  let x : Expr := .var .zero "x"
  let statements : List Expr :=
    [.cast ⟨0, 5⟩ x ⟨.numeric (.atomic .long), .zero⟩,
      .call ⟨10, 15⟩ none (.linked ⟨"my.Capacity.legacy"⟩) [],
      .cast ⟨20, 25⟩ x ⟨.boolean, .zero⟩]
  ⟨[.action ⟨⟨"f", .zero⟩, [⟨⟨"x", .zero⟩, ⟨.numeric (.atomic .long), .zero⟩, false⟩], none,
    .block .zero statements, .zero⟩], []⟩

theorem invalid_cast_survives_silencing
    : let obsolete := (Diagnostic.obsoleteCast "AtomicLong" "AtomicLong").withSpan ⟨0, 5⟩
      let call :=
        (Checker.discouragedDiagnostic ⟨"my.Capacity.legacy"⟩ "use stop" .error).withSpan ⟨10, 15⟩
      let invalid := (Diagnostic.invalidCast "AtomicLong" "boolean").withSpan ⟨20, 25⟩
      let plain : Config := { Config.silencing with severity := [] }
      Config.silencing.NamesIssues ∧
        plain.checkProgram .castsAndCall = .ok [obsolete, call, invalid] ∧
        Config.silencing.checkProgram .castsAndCall = .ok [call, invalid] ∧
        invalid ∈ [call, invalid] ∧ invalid.severity = .error := by
  intro obsolete call invalid plain
  have hnames : Config.silencing.NamesIssues := by
    intro entry hentry
    obtain ⟨code, -, rfl⟩ := List.mem_map.mp hentry
    exact ⟨code, rfl⟩
  have hplain : plain.checkProgram .castsAndCall = .ok [obsolete, call, invalid] := by rfl
  have hsilencing : Config.silencing.checkProgram .castsAndCall = .ok [call, invalid] := by rfl
  obtain ⟨ds, ds', hds, hds', -, herror⟩ :=
    overrides_relevel_each_diagnostic.2.2 .castsAndCall .silencing plain hnames rfl rfl
  obtain rfl : [obsolete, call, invalid] = ds := Except.ok.inj (hplain.symm.trans hds)
  obtain rfl : [call, invalid] = ds' := Except.ok.inj (hsilencing.symm.trans hds')
  exact ⟨hnames, hplain, hsilencing, herror invalid (by simp) (.inl rfl)⟩

end OperatorLowering
