import OperatorLowering.Check
import OperatorLowering.Error
import OperatorLowering.Json

/-!
Configurations: what a user declares about callables and events, and the levels of issues.
-/

namespace OperatorLowering

structure DiscouragedEntry where
  callable : String
  message : String
  level : CallLevel
  deriving Repr, DecidableEq, Inhabited

structure Config where
  /-- Names of callables that end the calling agent. -/
  callables : List String
  /-- Names of events that end the behavior receiving them. -/
  events : List String
  discouraged : List DiscouragedEntry
  /-- Levels by the name of the issue, in the order of the names. -/
  severity : List (String × IssueLevel)
  deriving Repr, DecidableEq, Inhabited

inductive ConfigError where
  | malformed
  | unknownIssue (name : String)
  deriving Repr, DecidableEq, Inhabited

namespace ConfigError

def message : ConfigError → String
  | malformed => "not a valid configuration"
  | unknownIssue name => s!"unknown issue code '{name}' in [severity]"

end ConfigError

namespace Error

def ofConfig (e : ConfigError) : Error := .config e.message

end Error

namespace Config

def empty : Config := ⟨[], [], [], []⟩

def isEmpty (c : Config) : Bool := c == empty

def unknownIssue? (c : Config) : Option String :=
  (c.severity.find? fun (name, _) => (IssueCode.ofName? name).isNone).map (·.1)

def overrides (c : Config) : Overrides := fun code => c.severity.lookup code.name

def levels (c : Config) : Except ConfigError Overrides :=
  match c.unknownIssue? with
  | some name => .error (.unknownIssue name)
  | none => .ok c.overrides

def declarations (c : Config) : Registry :=
  let r := c.callables.foldl (fun r name => r.markExit ⟨name⟩) Registry.empty
  let r := c.events.foldl Registry.markEvent r
  c.discouraged.foldl (fun r e => r.markDiscouraged ⟨e.callable⟩ e.message e.level) r

def registry (c : Config) : Registry := Registry.builtin.extend c.declarations

def checkProgram (c : Config) (program : Program) : Except ConfigError (List Diagnostic) :=
  c.levels.map fun overrides => Checker.checkProgram ⟨c.registry, overrides⟩ program

def encode (c : Config) : Json :=
  .object
    [("early_exit", .object
        [("callables", .array (c.callables.map .string)),
          ("events", .array (c.events.map .string))]),
      ("discouraged", .array (c.discouraged.map encodeEntry)),
      ("severity", .object (c.severity.map fun (name, level) => (name, .string level.name)))]
where
  encodeEntry (entry : DiscouragedEntry) : Json :=
    .object [("callable", .string entry.callable), ("message", .string entry.message),
      ("level", .string entry.level.name)]

end Config

end OperatorLowering
