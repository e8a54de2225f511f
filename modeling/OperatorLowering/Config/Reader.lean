import OperatorLowering.Config
import OperatorLowering.Toml.Document

/-!
Reading configurations.
-/

namespace OperatorLowering

namespace Toml.Value

def string? : Value → Option String
  | string s => some s
  | _ => none

def items? : Value → Option (List Value)
  | array items => some items
  | _ => none

def entries? : Value → Option (List (String × Value))
  | table entries => some entries
  | _ => none

def strings? (v : Value) : Option (List String) := do (← v.items?).mapM string?

def isEmpty : Value → Bool
  | array [] | table [] => true
  | _ => false

/-- The name of an alternative: a text, or the only key of a table that holds nothing. -/
def alternative? : Value → Option String
  | string name => some name
  | table [(name, content)] => if content.isEmpty then some name else none
  | _ => none

/--
The fields of a record, in the order of `keys`. A record is a table without other keys, or the array
of its fields; what an array has beyond them is passed over.
-/
def fields? (keys : List String) : Value → Option (List (Option Value))
  | table entries =>
    if entries.all fun (key, _) => keys.contains key then
      some (keys.map fun key => entries.lookup key)
    else none
  | array items =>
    some ((items.take keys.length).map some ++ List.replicate (keys.length - items.length) none)
  | _ => none

def fieldOr {α : Type} (default : α) (read : Value → Option α) : Option Value → Option α
  | some v => read v
  | none => some default

end Toml.Value

namespace Config

open Toml (Value)

def readExits (v : Value) : Option (List String × List String) :=
  match v.fields? ["callables", "events"] with
  | some [callables, events] => do
    return (← Value.fieldOr [] Value.strings? callables, ← Value.fieldOr [] Value.strings? events)
  | _ => none

def readCallLevel (v : Value) : Option CallLevel := v.alternative?.bind CallLevel.ofName?

def readDiscouraged (v : Value) : Option DiscouragedEntry :=
  match v.fields? ["callable", "message", "level"] with
  | some [some callable, some message, level] => do
    return ⟨← callable.string?, ← message.string?, ← Value.fieldOr .preference readCallLevel level⟩
  | _ => none

def readIssueLevel (v : Value) : Option IssueLevel := v.alternative?.bind IssueLevel.ofName?

def readSeverity (v : Value) : Option (List (String × IssueLevel)) := do
  let levels ← (← v.entries?).mapM fun (name, v) => do return (name, ← readIssueLevel v)
  return levels.mergeSort fun a b => !decide (b.1 < a.1)

def ofEntries? (entries : List (String × Value)) : Option Config :=
  match (Value.table entries).fields? ["early_exit", "discouraged", "severity"] with
  | some [exits, discouraged, severity] => do
    let (callables, events) ← Value.fieldOr ([], []) readExits exits
    let discouraged ← Value.fieldOr [] (fun v => do (← v.items?).mapM readDiscouraged) discouraged
    let severity ← Value.fieldOr [] readSeverity severity
    return ⟨callables, events, discouraged, severity⟩
  | _ => none

/-- The configuration of a TOML text. Names of issues are looked at last. -/
def ofText (text : String) : Except ConfigError Config :=
  match (Toml.parse text).bind ofEntries? with
  | none => .error .malformed
  | some config => config.levels.map fun _ => config

end Config

end OperatorLowering
