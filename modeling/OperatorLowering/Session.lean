import OperatorLowering.Config.Reader
import OperatorLowering.Program.Codec

/-!
Sessions: declarations made one after the other, with questions in between.
-/

namespace OperatorLowering

def Error.malformedJson : Error := .json "not a valid value"

structure Session where
  resolver : Resolver
  registry : Registry
  /-- Declarations that do not count until the registry is extended by them. -/
  staging : Registry
  overrides : Overrides

inductive Session.Command where
  | declare (name : String) (type : TypeName)
  | declareNonNull (name : String) (type : TypeName)
  | declareParams (text : String)
  | declareFeature (id : CallableId) (type : TypeName)
  | markExit (id : CallableId)
  | markEvent (event : String)
  | markDiscouraged (id : CallableId) (message : String) (level : CallLevel)
  | stageExit (id : CallableId)
  | stageEvent (event : String)
  | stageDiscouraged (id : CallableId) (message : String) (level : CallLevel)
  | extend
  | loadConfig (text : String)
  | setLevel (code : IssueCode) (level : IssueLevel)
  deriving Repr, Inhabited

inductive Session.Question where
  | isExit (id : CallableId)
  | isExitSlot (slot : String)
  | isExitEvent (event : String)
  | isNonNull (expr : String)
  | discouragedCall (slot : String)
  | typeOf (expr : String)
  | operandOf (expr : String)
  | verdict (expr : String)
  | checkExpr (expr : String)
  | checkItem (item : String)
  deriving Repr, Inhabited

inductive Session.Answer where
  | yesNo (b : Bool)
  | discouraged (call : Option DiscouragedCall)
  | type (t : Option TypeName)
  | operand (o : Option OperandType)
  | verdict (v : ExitVerdict)
  | diagnostics (ds : List Diagnostic)
  | report (worst : Option Severity) (ds : List Diagnostic)
  deriving Repr, Inhabited

def Diagnostic.worst? (ds : List Diagnostic) : Option Severity :=
  ds.foldl (fun worst d => some (worst.elim d.severity (·.max d.severity))) none

namespace Session

def ofRegistry (registry : Registry) : Session := ⟨.ofScope .empty, registry, .empty, .none⟩

def checker (s : Session) : Checker := ⟨s.registry, s.overrides⟩

def withScope (s : Session) (scope : Scope) : Session :=
  { s with resolver := { s.resolver with scope := scope } }

def read {α : Type} (d : Decoder α) (text : String) : Except Error α :=
  match d.ofText text with
  | some a => .ok a
  | none => .error .malformedJson

def run (s : Session) : Command → Except Error Session
  | .declare name type => .ok (s.withScope (s.resolver.scope.declare name type))
  | .declareNonNull name type => .ok (s.withScope (s.resolver.scope.declareNonNull name type))
  | .declareParams text => do
    let params ← read Param.decoder.list text
    return s.withScope (s.resolver.scope.declareParams params)
  | .declareFeature id type => .ok (s.withScope (s.resolver.scope.declareFeature id type))
  | .markExit id => .ok { s with registry := s.registry.markExit id }
  | .markEvent event => .ok { s with registry := s.registry.markEvent event }
  | .markDiscouraged id message level =>
    .ok { s with registry := s.registry.markDiscouraged id message level }
  | .stageExit id => .ok { s with staging := s.staging.markExit id }
  | .stageEvent event => .ok { s with staging := s.staging.markEvent event }
  | .stageDiscouraged id message level =>
    .ok { s with staging := s.staging.markDiscouraged id message level }
  | .extend => .ok { s with registry := s.registry.extend s.staging }
  | .loadConfig text =>
    match Config.ofText text with
    | .ok config => .ok { s with registry := config.registry, overrides := config.overrides }
    | .error e => .error (.ofConfig e)
  | .setLevel code level => .ok { s with overrides := s.overrides.set code level }

/-- Answers a question. Only the count of questions about static types changes. -/
def answer (s : Session) : Question → Except Error (Answer × Session)
  | .isExit id => .ok (.yesNo (s.registry.isExit id), s)
  | .isExitSlot slot => do
    return (.yesNo (s.registry.isExitSlot (← read FeatureSlot.decoder slot)), s)
  | .isExitEvent event => .ok (.yesNo (s.registry.isExitEvent event), s)
  | .isNonNull expr => do
    return (.yesNo (s.resolver.scope.isNonNull (← read Expr.decoder expr)), s)
  | .discouragedCall slot => do
    return (.discouraged (s.registry.discouragedCall? (← read FeatureSlot.decoder slot)), s)
  | .typeOf expr => do
    let (type, resolver) := s.resolver.resolveType (← read Expr.decoder expr)
    return (.type type, { s with resolver := resolver })
  | .operandOf expr => do
    let (operand, resolver) :=
      TypeResolution.resolveOperand s.resolver (← read Expr.decoder expr)
    return (.operand operand, { s with resolver := resolver })
  | .verdict expr => do
    let (verdict, resolver) :=
      ExitVerdict.compute s.registry.exitTest (← read Expr.decoder expr) s.resolver
    return (.verdict verdict, { s with resolver := resolver })
  | .checkExpr expr => do
    let (ds, resolver) := s.checker.checkExpr (← read Expr.decoder expr) s.resolver
    return (.diagnostics ds, { s with resolver := resolver })
  | .checkItem item => do
    let (ds, resolver) := s.checker.checkItem (← read Item.decoder item) s.resolver
    return (.report (Diagnostic.worst? ds) ds, { s with resolver := resolver })

end Session

end OperatorLowering
