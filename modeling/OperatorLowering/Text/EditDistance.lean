/-!
Edit distance between texts, and the search for the candidate closest to a misspelt name.

The distance is computed row by row: the row of a prefix of the first text holds the distances of
that prefix to every prefix of the second text. Two buffers hold the row before and the row being
filled, and change places after each row.
-/

namespace OperatorLowering.Text

/-- Fills `current` from the cell after column `j` on, one cell for each character. -/
def fillRow (c : Char) (previous : Array Nat) (j : Nat) (current : Array Nat)
    : List Char → Array Nat
  | [] => current
  | d :: ds =>
    let substitution := previous.getD j 0 + if c = d then 0 else 1
    let cell := min (min substitution (previous.getD (j + 1) 0 + 1)) (current.getD j 0 + 1)
    fillRow c previous (j + 1) (current.setIfInBounds (j + 1) cell) ds

/-- The buffer with the last row; `previous` holds row `i`. -/
def fillRows (b : List Char) (i : Nat) (previous current : Array Nat) : List Char → Array Nat
  | [] => previous
  | c :: a =>
    let filled := fillRow c previous 0 (current.setIfInBounds 0 (i + 1)) b
    fillRows b (i + 1) filled previous a

/--
The least number of insertions, deletions and replacements of single characters that turn `a` into
`b`.
-/
def editDistance (a b : String) : Nat :=
  let a := a.toList
  let b := b.toList
  if a.isEmpty || b.isEmpty then max a.length b.length
  else
    let previous := (List.range (b.length + 1)).toArray
    let current := Array.replicate (b.length + 1) 0
    (fillRows b 0 previous current a).getD b.length 0

def asciiLower (s : String) : String := String.ofList (s.toList.map Char.toLower)

def firstLeast {α : Type} : List (Nat × α) → Option (Nat × α)
  | [] => none
  | entry :: rest =>
    match firstLeast rest with
    | none => some entry
    | some best => if entry.1 ≤ best.1 then some entry else some best

/--
The first of the candidates that are closest to `name`, if it is within `threshold` edits. The case
of ASCII letters does not matter.
-/
def closest (name : String) (candidates : List String) (threshold : Nat) : Option String :=
  let needle := asciiLower name
  let scored := candidates.map fun c => (editDistance needle (asciiLower c), c)
  (firstLeast (scored.filter fun entry => entry.1 ≤ threshold)).map (·.2)

end OperatorLowering.Text
