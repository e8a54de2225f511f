import OperatorLowering.CommandLine.Files
import OperatorLowering.CommandLine.Help
import OperatorLowering.Json.Printer
import OperatorLowering.Lowering.Codec
import OperatorLowering.Session

/-!
The command line as a function from arguments and files to what is printed and the exit status.
-/

namespace OperatorLowering

def Token.listing (token : Spanned Token) : String := s!"{token.node.label} @ {token.span.text}"

namespace CommandLine

inductive Report where
  | diagnostic (d : Diagnostic)
  | query (e : Error)
  | failure (e : Error)
  | unreadable (e : FileError)
  deriving Repr, DecidableEq, Inhabited

namespace Report

def text : Report → String
  | diagnostic d => s!"[{d.code.name}] {d.severity.heading}: {d.message}"
  | query (.lexer ..) => "Error: Lexer error"
  | query (.parser ..) => "Error: Parser error"
  | query e | failure e => s!"Error: {e.text}"
  | unreadable e => s!"Error: {e.message}"

end Report

structure Outcome where
  status : Nat
  output : String
  reports : List Report
  deriving Repr, DecidableEq, Inhabited

namespace Outcome

def failed (report : Report) : Outcome := ⟨1, "", [report]⟩

def badUsage : Outcome := ⟨2, "", []⟩

def statusOf (errors : Bool) : Nat := if errors then 1 else 0

end Outcome

def unlines (lines : List String) : String := String.join (lines.map (· ++ "\n"))

def loweredLine (query : Query) (lowering : Lowering) : String :=
  let lowered := (query.render? lowering).getD "<no lowering>"
  s!"{lowered} : {lowering.result.text}\n"

/-- The answer to a query as JSON, keys in alphabetical order. -/
def loweredJson (text : String) (query : Query) (lowering : Lowering) : String :=
  (Json.object
    [("descriptor", lowering.encode), ("lowered", .ofOption .string (query.render? lowering)),
      ("query", .string text)]).renderIndented 0 ++ "\n"

def runLower (text : String) (json : Bool) : Outcome :=
  match Query.ofText text with
  | .error e => .failed (.query e)
  | .ok query =>
    match query.lower with
    | .error e => .failed (.diagnostic (e.diagnostic.withSpan query.span))
    | .ok lowering =>
      let reports := lowering.diagnostic.toList.map fun d => d.withSpan query.span
      ⟨Outcome.statusOf (reports.any Diagnostic.isError),
        if json then loweredJson text query lowering else loweredLine query lowering,
        reports.map .diagnostic⟩

def loadConfig (files : Files) : Option String → Except Error Config
  | none => .ok .empty
  | some path =>
    match files path with
    | .error e => .error (.io s!"Failed to read config {path}: {e.message}")
    | .ok text =>
      match Config.ofText text with
      | .error e => .error (.ofConfig e)
      | .ok config => .ok config

def checkOutput (path : String) (titles : List String) (ds : List Diagnostic) : String :=
  let errors := (ds.filter Diagnostic.isError).length
  let verdict :=
    if 0 < errors then s!"✗ {path}: {errors} error(s), {ds.length} diagnostic(s)"
    else s!"✓ {path} checks successfully ({ds.length} diagnostic(s))"
  unlines (titles.map (fun title => s!"{title}: synthetic return required") ++ [verdict])

def isMisplaced (d : Diagnostic) : Bool := d.span.any Span.isBackwards

/-- A run that breaks off at a diagnostic whose place cannot be shown. -/
def brokenOff (ds : List Diagnostic) : Outcome :=
  ⟨101, "", (ds.takeWhile fun d => !isMisplaced d).map .diagnostic⟩

/-- Reports on a unit. Places are shown only if there is a source to show them in. -/
def reportUnit (path : String) (titles : List String) (ds : List Diagnostic) (hasSource : Bool)
    : Outcome :=
  if hasSource && ds.any isMisplaced then brokenOff ds
  else
    ⟨Outcome.statusOf (ds.any Diagnostic.isError), checkOutput path titles ds, ds.map .diagnostic⟩

def runCheck (files : Files) (path : String) (config source : Option String) : Outcome :=
  match files path with
  | .error e => .failed (.unreadable e)
  | .ok text =>
    match Program.decoder.ofText text with
    | none => .failed (.failure .malformedJson)
    | some program =>
      match loadConfig files config with
      | .error e => .failed (.failure e)
      | .ok config =>
        match config.checkProgram program, source.map files with
        | .error e, _ => .failed (.failure (.ofConfig e))
        | .ok _, some (.error e) => .failed (.unreadable e)
        | .ok ds, source =>
          reportUnit path (program.fallThroughTitles config.registry) ds source.isSome

def tableLine (entry : OperatorSpec × Promotion) : String :=
  s!"{entry.1.text} => {entry.2.result.name} ({entry.2.label})"

def runTable : Option String → Outcome
  | none => ⟨0, unlines (Promotion.table.map tableLine), []⟩
  | some word =>
    match OperatorSymbol.ofText? word with
    | some symbol => ⟨0, unlines ((Promotion.tableOf symbol).map tableLine), []⟩
    | none => .failed (.failure (.unsupportedOperator s!"unknown operator '{word}'"))

def runTokens (text : String) : Outcome :=
  match Token.tokenize text with
  | .error e => .failed (.failure (.ofLexer e))
  | .ok tokens => ⟨0, unlines (tokens.map Token.listing), []⟩

def perform (files : Files) : Invocation → Outcome
  | .lower query json => runLower query json
  | .check path config source => runCheck files path config source
  | .table operator => runTable operator
  | .tokens query => runTokens query
  | .version => ⟨0, versionText, []⟩
  | .help topic => ⟨0, helpText topic, []⟩

def run (files : Files) (args : List String) : Outcome :=
  match Invocation.ofArguments args with
  | some invocation => perform files invocation
  | none => .badUsage

end CommandLine

end OperatorLowering
