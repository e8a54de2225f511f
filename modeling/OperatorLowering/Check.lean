import OperatorLowering.EarlyExit
import OperatorLowering.Scope

/-!
Checking programs: one pass over every node of a tree, in order, each node looked at on its own.
-/

namespace OperatorLowering

inductive IssueLevel where
  | error | warning | info | ignore
  deriving Repr, DecidableEq, Inhabited

namespace IssueLevel

def all : List IssueLevel := [error, warning, info, ignore]

def name : IssueLevel → String
  | error => "error"
  | warning => "warning"
  | info => "info"
  | ignore => "ignore"

def ofName? (name : String) : Option IssueLevel := all.find? fun level => level.name == name

def severity? : IssueLevel → Option Severity
  | error => some .error
  | warning => some .warning
  | info => some .info
  | ignore => none

end IssueLevel

abbrev Overrides := IssueCode → Option IssueLevel

namespace Overrides

def none : Overrides := fun _ => .none

def set (o : Overrides) (code : IssueCode) (level : IssueLevel) : Overrides :=
  fun c => if c = code then some level else o c

end Overrides

def Registry.exitTest {ρ : Type} [TypeResolution ρ] (registry : Registry) (call : FeatureCall)
    : Test ρ := fun r =>
  let (slot, r) := TypeResolution.slotOf r call
  (registry.isExitSlot slot, r)

structure Checker where
  registry : Registry
  overrides : Overrides

namespace Checker

/--
Applies the configured level to a diagnostic. Issues that are errors by default keep their severity,
and so do diagnostics that are not `configurable`.
-/
def emit (c : Checker) (configurable : Bool) (d : Diagnostic) : List Diagnostic :=
  if configurable && d.code.defaultSeverity != .error then
    match c.overrides d.code with
    | none => [d]
    | some level =>
      match level.severity? with
      | some severity => [d.withSeverity severity]
      | none => []
  else
    [d]

def checkOperands (c : Checker) (span : Span) (operator : Operator) (left : OperandType)
    (right : Option OperandType) : List Diagnostic :=
  match Lowering.resolve operator left right with
  | .ok lowering =>
    match lowering.diagnostic with
    | some d => c.emit true (d.withSpan span)
    | none => []
  | .error e => c.emit true (e.diagnostic.withSpan span)

section

variable {ρ : Type} [TypeResolution ρ]

open TypeResolution (resolveOperand slotOf)

def checkUnary (c : Checker) (span : Span) (operator : Operator) (operand : Expr) (r : ρ)
    : List Diagnostic × ρ :=
  match resolveOperand r operand with
  | (some operand, r) => (c.checkOperands span operator operand none, r)
  | (none, r) => ([], r)

/-- Checks an operator with two operands; the right one is looked at only if the left is numeric. -/
def checkBinary (c : Checker) (span : Span) (op : BinaryOp) (left right : Expr) (r : ρ)
    : List Diagnostic × ρ :=
  match resolveOperand r left with
  | (none, r) => ([], r)
  | (some left, r) =>
    match resolveOperand r right with
    | (none, r) => ([], r)
    | (some right, r) => (c.checkOperands span (.binary op) left (some right), r)

/-- The severity of a discouraged call, and whether the configuration can change it. -/
def callSeverity : CallLevel → Severity × Bool
  | .error => (.error, false)
  | .warning => (.warning, false)
  | .info => (.info, false)
  | .preference => (IssueCode.discouragedCall.defaultSeverity, true)

def discouragedDiagnostic (id : CallableId) (message : String) (severity : Severity) : Diagnostic :=
  { Diagnostic.ofCode .discouragedCall s!"'{id.member}' is discouraged: {message}" with
    severity := severity
    accessor := some id.name }

def checkSlot (c : Checker) (span : Span) (slot : FeatureSlot) : List Diagnostic :=
  match slot, c.registry.discouragedCall? slot with
  | .linked id, some issue =>
    let (severity, configurable) := callSeverity issue.level
    c.emit configurable ((discouragedDiagnostic id issue.message severity).withSpan span)
  | _, _ => []

def checkCall (c : Checker) (span : Span) (call : FeatureCall) (r : ρ) : List Diagnostic × ρ :=
  let (slot, r) := slotOf r call
  (c.checkSlot span slot, r)

def firstUnreachable? (registry : Registry) : List Expr → ρ → Option Expr × ρ
  | [], r => (none, r)
  | e :: es, r =>
    match e.definiteExit registry.exitTest r with
    | (true, r) => (es.head?, r)
    | (false, r) => firstUnreachable? registry es r

def checkBlock (c : Checker) (statements : List Expr) (r : ρ) : List Diagnostic × ρ :=
  match firstUnreachable? c.registry statements r with
  | (some next, r) => (c.emit true (.unreachableCode next.span), r)
  | (none, r) => ([], r)

def checkNode (c : Checker) (e : Expr) (r : ρ) : List Diagnostic × ρ :=
  match e with
  | .binary span left op right => c.checkBinary span op left right r
  | .negation span operand => c.checkUnary span .negate operand r
  | .cast span operand target => c.checkUnary span (.cast target.node) operand r
  | .call span receiver feature args => c.checkCall span ⟨receiver, feature, args⟩ r
  | .block _ statements => c.checkBlock statements r
  | _ => ([], r)

def checkNodes (c : Checker) : List Expr → ρ → List Diagnostic × ρ
  | [], r => ([], r)
  | e :: es, r =>
    let (ds, r) := c.checkNode e r
    let (rest, r) := c.checkNodes es r
    (ds ++ rest, r)

def checkExpr (c : Checker) (e : Expr) (r : ρ) : List Diagnostic × ρ :=
  c.checkNodes e.nodes r

def checkItem (c : Checker) (item : Item) (r : ρ) : List Diagnostic × ρ :=
  c.checkNodes (item.parts.flatMap Expr.nodes) r

def verdict (c : Checker) (item : Item) (r : ρ) : ExitVerdict × ρ :=
  ExitVerdict.compute c.registry.exitTest item.body r

def needsReturn (c : Checker) (item : Item) : Test ρ := fun r =>
  let (v, r) := c.verdict item r
  (v.needsReturn, r)

def fallThrough (c : Checker) : List Item → ρ → List Item × ρ
  | [], r => ([], r)
  | item :: items, r =>
    let (falls, r) := (Test.answer item.returnsValue).and (c.needsReturn item) r
    let (rest, r) := c.fallThrough items r
    (if falls then item :: rest else rest, r)

end

def checkProgram (c : Checker) (program : Program) : List Diagnostic :=
  program.items.flatMap fun item =>
    (c.checkItem item (Resolver.ofScope (.ofItem program item))).1

end Checker

namespace Program

def fallThroughTitles (program : Program) (registry : Registry) : List String :=
  let checker : Checker := ⟨registry, .none⟩
  (checker.fallThrough program.items (Resolver.ofScope (.ofProgram program))).1.map Item.title

end Program

end OperatorLowering
