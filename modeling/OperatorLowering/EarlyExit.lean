import OperatorLowering.Registry

/-!
Early exits: statements after which control never reaches the next one. The analysis looks at the
tree and at the registered callables only; a construct it does not know is no early exit. What a
call refers to it has to ask, and whoever is asked may change by it.
-/

namespace OperatorLowering

/-- A test that may ask somebody: its answer, and whom to ask next. -/
abbrev Test (ρ : Type) := ρ → Bool × ρ

namespace Test

variable {ρ : Type}

def answer (b : Bool) : Test ρ := fun r => (b, r)

def and (first second : Test ρ) : Test ρ := fun r =>
  match first r with
  | (true, r) => second r
  | (false, r) => (false, r)

def or (first second : Test ρ) : Test ρ := fun r =>
  match first r with
  | (true, r) => (true, r)
  | (false, r) => second r

end Test

structure ExitRules where
  registry : Registry
  slotOf : FeatureCall → FeatureSlot

namespace ExitRules

def ofRegistry (r : Registry) : ExitRules := ⟨r, FeatureCall.feature⟩

instance : Coe Registry ExitRules := ⟨ofRegistry⟩

def isExitCall (rules : ExitRules) (call : FeatureCall) : Bool :=
  rules.registry.isExitSlot (rules.slotOf call)

def test (rules : ExitRules) (call : FeatureCall) : Test Unit := .answer (rules.isExitCall call)

end ExitRules

namespace Expr

mutual

/-- Does the expression contain a `break` that leaves the loop around it? -/
def breaksOut : Expr → Bool
  | breakLoop _ => true
  | whileLoop .. | doWhileLoop .. => false
  | intLit .. | floatLit .. | boolLit .. | stringLit .. | null _ | var .. | unmodelled ..
  | returnValue _ none => false
  | binary _ left _ right => left.breaksOut || right.breaksOut
  | negation _ operand | cast _ operand _ | throwValue _ operand => operand.breaksOut
  | call _ none _ args => anyBreaksOut args
  | call _ (some receiver) _ args => receiver.breaksOut || anyBreaksOut args
  | block _ statements => anyBreaksOut statements
  | conditional _ condition thenBranch none => condition.breaksOut || thenBranch.breaksOut
  | conditional _ condition thenBranch (some elseBranch) =>
    condition.breaksOut || (thenBranch.breaksOut || elseBranch.breaksOut)
  | returnValue _ (some value) => value.breaksOut
  | tryCatch _ body handlers none => body.breaksOut || anyBreaksOut handlers
  | tryCatch _ body handlers (some finalizer) =>
    body.breaksOut || (anyBreaksOut handlers || finalizer.breaksOut)
  | synchronized _ lock body => lock.breaksOut || body.breaksOut
termination_by structural e => e

def anyBreaksOut : List Expr → Bool
  | [] => false
  | e :: es => e.breaksOut || anyBreaksOut es
termination_by structural es => es

end

theorem anyBreaksOut_eq_any (es : List Expr) : anyBreaksOut es = es.any breaksOut := by
  induction es with
  | nil => rfl
  | cons e es ih => simp [anyBreaksOut, ih]

section Tests

variable {ρ : Type}

mutual

def definiteExit (exits : FeatureCall → Test ρ) : Expr → Test ρ
  | returnValue .. | throwValue .. => .answer true
  | block _ statements => anyDefiniteExit exits statements
  | conditional _ _ thenBranch (some elseBranch) =>
    (thenBranch.definiteExit exits).and (elseBranch.definiteExit exits)
  | tryCatch _ body handlers none =>
    (body.definiteExit exits).and (allDefiniteExit exits handlers)
  | tryCatch _ body handlers (some finalizer) =>
    (finalizer.definiteExit exits).or
      ((body.definiteExit exits).and (allDefiniteExit exits handlers))
  | synchronized _ _ body | doWhileLoop _ body _ => body.definiteExit exits
  | whileLoop _ condition body => .answer (condition.isTrueLiteral && !body.breaksOut)
  | call _ receiver feature args => exits ⟨receiver, feature, args⟩
  | _ => .answer false
termination_by structural e => e

def anyDefiniteExit (exits : FeatureCall → Test ρ) : List Expr → Test ρ
  | [] => .answer false
  | e :: es => (e.definiteExit exits).or (anyDefiniteExit exits es)
termination_by structural es => es

def allDefiniteExit (exits : FeatureCall → Test ρ) : List Expr → Test ρ
  | [] => .answer true
  | e :: es => (e.definiteExit exits).and (allDefiniteExit exits es)
termination_by structural es => es

end

mutual

/-- Is the exit deliberate: a `return`, a `throw` or a call to a registered callable? -/
def intentionalExit (exits : FeatureCall → Test ρ) : Expr → Test ρ
  | returnValue .. | throwValue .. => .answer true
  | block _ statements => anyIntentionalExit exits statements
  | synchronized _ _ body => body.intentionalExit exits
  | call _ receiver feature args => exits ⟨receiver, feature, args⟩
  | _ => .answer false
termination_by structural e => e

def anyIntentionalExit (exits : FeatureCall → Test ρ) : List Expr → Test ρ
  | [] => .answer false
  | e :: es => (e.intentionalExit exits).or (anyIntentionalExit exits es)
termination_by structural es => es

end

end Tests

def isDefiniteExit (rules : ExitRules) (e : Expr) : Bool := (e.definiteExit rules.test ()).1

def isIntentionalExit (rules : ExitRules) (e : Expr) : Bool := (e.intentionalExit rules.test ()).1

end Expr

structure ExitVerdict where
  definite : Bool
  intentional : Bool
  deriving Repr, DecidableEq, Inhabited

namespace ExitVerdict

def ofExpr (rules : ExitRules) (e : Expr) : ExitVerdict :=
  ⟨e.isDefiniteExit rules, e.isIntentionalExit rules⟩

def compute {ρ : Type} (exits : FeatureCall → Test ρ) (e : Expr) (r : ρ) : ExitVerdict × ρ :=
  let (definite, r) := e.definiteExit exits r
  let (intentional, r) := e.intentionalExit exits r
  (⟨definite, intentional⟩, r)

def needsReturn (v : ExitVerdict) : Bool := !v.definite

end ExitVerdict

end OperatorLowering
