import OperatorLowering.Toml
import OperatorLowering.Toml.Text

/-!
Tables under construction: which keys may still be added to which tables.
-/

namespace OperatorLowering.Toml

inductive Origin where
  /-- By a header of its own, or as the outermost table. -/
  | header
  /-- As a table that a longer header leads through. -/
  | implied
  /-- As a table that a dotted key leads through. -/
  | dotted
  deriving Repr, DecidableEq, Inhabited

inductive Node where
  | value (v : Value)
  | table (origin : Origin) (entries : List (String × Node))
  /-- An array of tables, the last one first; its elements came about by headers. -/
  | tables (elements : List (List (String × Node)))
  deriving Repr, Inhabited

abbrev Entries := List (String × Node)

namespace Entries

def set (key : String) (node : Node) : Entries → Entries
  | [] => [(key, node)]
  | (k, old) :: entries =>
    if k = key then (key, node) :: entries else (k, old) :: set key node entries

/--
Changes the table that a path leads to. Tables on the way that are not there yet come about with
origin `created`. A path leads into the last table of an array of tables; it may not lead through
values, nor, as part of a dotted key, through tables with headers.
-/
def alter (created : Origin) (f : Origin → Entries → Option Entries)
    : List String → Origin → Entries → Option Entries
  | [], origin, entries => f origin entries
  | key :: path, _, entries =>
    match entries.lookup key with
    | none => (alter created f path created []).map fun inner =>
      entries ++ [(key, .table created inner)]
    | some (.table origin inner) =>
      if created = .dotted && origin = .header then none
      else (alter created f path origin inner).map fun inner =>
        Entries.set key (.table origin inner) entries
    | some (.tables (last :: others)) => (alter created f path .header last).map fun last =>
      Entries.set key (.tables (last :: others)) entries
    | some (.tables []) | some (.value _) => none

/--
Adds a value under a key. A dotted key ends in a table that came about by dotted keys, and no key is
given twice.
-/
def insert (key : Key) (v : Value) (origin : Origin) (entries : Entries) : Option Entries :=
  alter .dotted place key.1 origin entries
where
  place (origin : Origin) (entries : Entries) : Option Entries :=
    if (origin == .dotted) == key.1.isEmpty then none
    else if (entries.lookup key.2).isSome then none
    else some (entries ++ [(key.2, .value v)])

/-- Opens the table of a header. It may have been implied, but not written, before. -/
def openTable (key : Key) (entries : Entries) : Option Entries :=
  alter .implied place key.1 .header entries
where
  place (_ : Origin) (entries : Entries) : Option Entries :=
    match entries.lookup key.2 with
    | none => some (entries ++ [(key.2, .table .header [])])
    | some (.table .implied inner) => some (Entries.set key.2 (.table .header inner) entries)
    | some _ => none

def openNext (key : Key) (entries : Entries) : Option Entries :=
  alter .implied place key.1 .header entries
where
  place (_ : Origin) (entries : Entries) : Option Entries :=
    match entries.lookup key.2 with
    | none => some (entries ++ [(key.2, .tables [[]])])
    | some (.tables elements) => some (Entries.set key.2 (.tables ([] :: elements)) entries)
    | some _ => none

end Entries

mutual

def Node.toValue : Node → Value
  | .value v => v
  | .table _ entries => .table (toValues entries)
  | .tables elements => .array (toTables elements).reverse
termination_by structural n => n

def toValues : List (String × Node) → List (String × Value)
  | [] => []
  | (key, node) :: entries => (key, node.toValue) :: toValues entries
termination_by structural es => es

def toTables : List (List (String × Node)) → List Value
  | [] => []
  | entries :: elements => .table (toValues entries) :: toTables elements
termination_by structural es => es

end

end OperatorLowering.Toml
