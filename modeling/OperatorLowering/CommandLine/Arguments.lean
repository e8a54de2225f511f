/-!
Command-line arguments: what each subcommand takes, and how arguments are matched with it.
-/

namespace OperatorLowering.CommandLine

inductive Subcommand where
  | lower | check | table | tokens
  deriving Repr, DecidableEq, Inhabited

/-- What an argument stands for. A path has at least one character. -/
inductive ValueKind where
  | text | path
  deriving Repr, DecidableEq, Inhabited

structure Grammar where
  operand : Option ValueKind
  switches : List String
  options : List (String × ValueKind)
  deriving Repr, Inhabited

structure Matches where
  operand : Option String
  switches : List String
  options : List (String × String)
  deriving Repr, DecidableEq, Inhabited

inductive Stop where
  | help
  | usage
  deriving Repr, DecidableEq, Inhabited

namespace ValueKind

def accepts (kind : ValueKind) (value : String) : Bool := kind == .text || !value.isEmpty

end ValueKind

/-- Does an argument start like an option? A dash alone does not. -/
def isDashed (arg : String) : Bool := arg.startsWith "-" && arg != "-"

def splitOption (arg : String) : String × Option String :=
  let cs := arg.toList.drop 2
  let name := String.ofList (cs.takeWhile (· != '='))
  match cs.dropWhile (· != '=') with
  | [] => (name, none)
  | _ :: value => (name, some (String.ofList value))

namespace Matches

def empty : Matches := ⟨none, [], []⟩

def addOperand (g : Grammar) (m : Matches) (value : String) : Except Stop Matches :=
  match g.operand, m.operand with
  | some kind, none =>
    if kind.accepts value then .ok { m with operand := some value } else .error .usage
  | _, _ => .error .usage

/-- No option is given twice. -/
def addSwitch (m : Matches) (name : String) : Except Stop Matches :=
  if m.switches.contains name then .error .usage
  else .ok { m with switches := name :: m.switches }

def addOption (m : Matches) (name : String) (kind : ValueKind) (value : String)
    : Except Stop Matches :=
  if (m.options.lookup name).isSome || !kind.accepts value then .error .usage
  else .ok { m with options := (name, value) :: m.options }

/-- Matches arguments from left to right. The value of an option may be the next argument. -/
def parse (g : Grammar) (m : Matches) : List String → Except Stop Matches
  | [] => if g.operand.isSome && m.operand.isNone then .error .usage else .ok m
  | arg :: rest =>
    if arg == "--" then do
      let m ← rest.foldlM (addOperand g) m
      if g.operand.isSome && m.operand.isNone then .error .usage else .ok m
    else if arg.startsWith "--" then
      let (name, value) := splitOption arg
      match g.options.lookup name, value, rest with
      | some kind, some value, rest => do parse g (← m.addOption name kind value) rest
      | some kind, none, value :: rest =>
        if isDashed value then .error .usage
        else do parse g (← m.addOption name kind value) rest
      | some _, none, [] => .error .usage
      | none, none, rest =>
        if name == "help" then .error .help
        else if g.switches.contains name then do parse g (← m.addSwitch name) rest
        else .error .usage
      | none, some _, _ => .error .usage
    else if isDashed arg then .error (if arg.startsWith "-h" then .help else .usage)
    else do parse g (← m.addOperand g arg) rest

end Matches

namespace Subcommand

def all : List Subcommand := [lower, check, table, tokens]

def name : Subcommand → String
  | lower => "lower"
  | check => "check"
  | table => "table"
  | tokens => "tokens"

def ofName? (name : String) : Option Subcommand := all.find? fun c => c.name == name

def grammar : Subcommand → Grammar
  | lower => ⟨some .text, ["json"], []⟩
  | check => ⟨some .path, [], [("config", .path), ("source", .path)]⟩
  | table => ⟨none, [], [("op", .text)]⟩
  | tokens => ⟨some .text, [], []⟩

end Subcommand

inductive Invocation where
  | lower (query : String) (json : Bool)
  | check (path : String) (config source : Option String)
  | table (operator : Option String)
  | tokens (query : String)
  | version
  | help (topic : Option Subcommand)
  deriving Repr, DecidableEq, Inhabited

namespace Invocation

def ofMatches (c : Subcommand) (m : Matches) : Option Invocation :=
  match c, m.operand with
  | .lower, some query => some (.lower query (m.switches.contains "json"))
  | .check, some path => some (.check path (m.options.lookup "config") (m.options.lookup "source"))
  | .table, _ => some (.table (m.options.lookup "op"))
  | .tokens, some query => some (.tokens query)
  | _, none => none

def ofSubcommand (c : Subcommand) (args : List String) : Option Invocation :=
  match Matches.parse c.grammar .empty args with
  | .ok m => ofMatches c m
  | .error .help => some (.help (some c))
  | .error .usage => none

def ofArguments : List String → Option Invocation
  | [] => none
  | arg :: rest =>
    match Subcommand.ofName? arg with
    | some c => ofSubcommand c rest
    | none =>
      if arg == "help" then
        match rest with
        | [] => some (.help none)
        | [topic] => (Subcommand.ofName? topic).map fun c => .help (some c)
        | _ => none
      else if arg == "--version" || arg.startsWith "-V" then some .version
      else if arg == "--help" || arg.startsWith "-h" then some (.help none)
      else none

def paths : Invocation → List String
  | check path config source => path :: (config.toList ++ source.toList)
  | _ => []

end Invocation

end OperatorLowering.CommandLine
