import OperatorLowering.Expr
import OperatorLowering.Text.Blank

/-!
The registry: which callables end the calling agent, which events end a behavior, and which calls
are discouraged.
-/

namespace OperatorLowering

inductive CallLevel where
  | error | warning | info
  /-- As configured for discouraged calls in general. -/
  | preference
  deriving Repr, DecidableEq, Inhabited

namespace CallLevel

def all : List CallLevel := [error, warning, info, preference]

def name : CallLevel → String
  | error => "error"
  | warning => "warning"
  | info => "info"
  | preference => "preference"

def ofName? (name : String) : Option CallLevel := all.find? fun level => level.name == name

end CallLevel

structure DiscouragedCall where
  message : String
  level : CallLevel
  deriving Repr, DecidableEq, Inhabited

/-- Declarations about callables and events. Of two about the same callable the first one counts. -/
structure Registry where
  exits : List CallableId
  events : List String
  discouraged : List (CallableId × DiscouragedCall)
  deriving Repr, DecidableEq, Inhabited

namespace Registry

def empty : Registry := ⟨[], [], []⟩

def markExit (r : Registry) (id : CallableId) : Registry := { r with exits := id :: r.exits }

def markEvent (r : Registry) (event : String) : Registry := { r with events := event :: r.events }

/-- Declares a discouraged call; a blank message declares nothing. -/
def markDiscouraged (r : Registry) (id : CallableId) (message : String) (level : CallLevel)
    : Registry :=
  if Text.isBlank message then r
  else { r with discouraged := (id, ⟨message, level⟩) :: r.discouraged }

def builtinExits : List CallableId :=
  [⟨"io.sarl.api.core.Lifecycle.killMe"⟩, ⟨"io.sarl.core.Lifecycle.killMe"⟩]

def builtin : Registry := builtinExits.foldl markExit empty

def isExit (r : Registry) (id : CallableId) : Bool := r.exits.contains id

def isExitSlot (r : Registry) (slot : FeatureSlot) : Bool := slot.linked?.any r.isExit

def isExitEvent (r : Registry) (event : String) : Bool :=
  r.events.any fun registered => registered == event || Text.lastSegment registered == event

def discouragedCall? (r : Registry) (slot : FeatureSlot) : Option DiscouragedCall :=
  slot.linked?.bind fun id => r.discouraged.lookup id

/-- Adds the declarations of `other`, which count first. -/
def extend (r other : Registry) : Registry :=
  ⟨other.exits ++ r.exits, other.events ++ r.events, other.discouraged ++ r.discouraged⟩

end Registry

end OperatorLowering
