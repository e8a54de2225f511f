import OperatorLowering.Span

/-!
Diagnostics: issues found in a program that do not stop the analysis.
-/

namespace OperatorLowering

inductive Severity where
  | info | warning | error
  deriving Repr, DecidableEq, Inhabited

namespace Severity

def name : Severity → String
  | info => "info"
  | warning => "warning"
  | error => "error"

def heading : Severity → String
  | info => "Advice"
  | warning => "Warning"
  | error => "Error"

def order : Severity → Nat
  | info => 0
  | warning => 1
  | error => 2

def max (a b : Severity) : Severity := if a.order ≤ b.order then b else a

end Severity

inductive IssueCode where
  | inefficientConversion
  | obsoleteCast
  | invalidCast
  | unsupportedOperator
  | unreachableCode
  | discouragedCall
  deriving Repr, DecidableEq, Inhabited

namespace IssueCode

def all : List IssueCode :=
  [inefficientConversion, obsoleteCast, invalidCast, unsupportedOperator, unreachableCode,
    discouragedCall]

def name : IssueCode → String
  | inefficientConversion => "POTENTIAL_INEFFICIENT_VALUE_CONVERSION"
  | obsoleteCast => "OBSOLETE_CAST"
  | invalidCast => "INVALID_CAST"
  | unsupportedOperator => "UNSUPPORTED_OPERATOR"
  | unreachableCode => "UNREACHABLE_CODE"
  | discouragedCall => "DISCOURAGED_CALL"

def ofName? (name : String) : Option IssueCode := all.find? fun code => code.name == name

def defaultSeverity : IssueCode → Severity
  | invalidCast | unsupportedOperator => .error
  | _ => .warning

end IssueCode

structure Diagnostic where
  severity : Severity
  code : IssueCode
  message : String
  /-- The accessor, conversion helper or callable that the issue is about. -/
  accessor : Option String
  span : Option Span
  deriving Repr, DecidableEq, Inhabited

namespace Diagnostic

def ofCode (code : IssueCode) (message : String) : Diagnostic :=
  ⟨code.defaultSeverity, code, message, none, none⟩

def withSpan (d : Diagnostic) (span : Span) : Diagnostic := { d with span := some span }

def withSeverity (d : Diagnostic) (severity : Severity) : Diagnostic :=
  { d with severity := severity }

def isError (d : Diagnostic) : Bool := d.severity == .error

def inefficientConversion (source target accessor : String) : Diagnostic :=
  { ofCode .inefficientConversion
      (s!"Potentially inefficient value conversion from {source} to {target}: " ++
        s!"the value is converted with '{accessor}'") with
    accessor := some accessor }

def obsoleteCast (source target : String) : Diagnostic :=
  ofCode .obsoleteCast s!"Unnecessary cast from {source} to {target}"

def invalidCast (source target : String) : Diagnostic :=
  ofCode .invalidCast s!"Cannot cast from {source} to {target}"

def unreachableCode (span : Span) : Diagnostic :=
  (ofCode .unreachableCode "Unreachable code").withSpan span

/-- The whole diagnostic in one line: `error[INVALID_CAST]: Cannot cast … @ 3..8`. -/
def text (d : Diagnostic) : String :=
  let place := match d.span with
    | some span => s!" @ {span.text}"
    | none => ""
  s!"{d.severity.name}[{d.code.name}]: {d.message}{place}"

end Diagnostic

end OperatorLowering
