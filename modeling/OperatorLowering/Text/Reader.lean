/-!
Readers: functions that take something off the front of a list of characters.
-/

namespace OperatorLowering.Text

/-- Reads a value and leaves the characters after it, or fails and leaves everything. -/
abbrev Reader := StateT (List Char) Option

namespace Reader

def satisfy (p : Char → Bool) : Reader Char
  | c :: cs => if p c then some (c, cs) else none
  | [] => none

def char (c : Char) : Reader Char := satisfy (· == c)

def word (expected : List Char) : Reader Unit := fun cs =>
  if expected.isPrefixOf cs then some ((), cs.drop expected.length) else none

def run (p : Char → Bool) : Reader (List Char) := fun cs =>
  some (cs.takeWhile p, cs.dropWhile p)

def run1 (p : Char → Bool) : Reader (List Char) := fun cs =>
  match cs.takeWhile p with
  | [] => none
  | taken => some (taken, cs.dropWhile p)

def exactly (p : Char → Bool) (n : Nat) : Reader (List Char) := fun cs =>
  let taken := cs.take n
  if taken.length = n && taken.all p then some (taken, cs.drop n) else none

def atEnd : Reader Unit
  | [] => some ((), [])
  | _ => none

def guarded {α : Type} (r : Reader α) (p : α → Bool) : Reader α := fun cs =>
  match r cs with
  | some (a, rest) => if p a then some (a, rest) else none
  | none => none

def manyFrom {α : Type} (item : Reader α) (cs : List Char) : List α × List Char :=
  match item cs with
  | none => ([], cs)
  | some (a, rest) =>
    if rest.length < cs.length then
      let (items, rest) := manyFrom item rest
      (a :: items, rest)
    else ([], cs)
termination_by cs.length

/-- As many items as there are. An item that takes no character ends the list and is left out. -/
def many {α : Type} (item : Reader α) : Reader (List α) := fun cs => some (manyFrom item cs)

def whole {α : Type} (r : Reader α) (text : String) : Option α :=
  match r text.toList with
  | some (a, []) => some a
  | _ => none

end Reader

end OperatorLowering.Text
