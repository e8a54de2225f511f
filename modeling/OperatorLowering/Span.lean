/-!
Byte ranges of a source text, and values that carry the range they were written at.
-/

namespace OperatorLowering

/--
A range of UTF-8 byte offsets. `stop` may lie before `start`, in which case the range counts as
empty.
-/
structure Span where
  start : Nat
  stop : Nat
  deriving Repr, DecidableEq, Inhabited

namespace Span

def zero : Span := ⟨0, 0⟩

def merge (a b : Span) : Span := ⟨min a.start b.start, max a.stop b.stop⟩

def length (s : Span) : Nat := s.stop - s.start

def isEmpty (s : Span) : Bool := s.length == 0

def isBackwards (s : Span) : Bool := s.stop < s.start

def text (s : Span) : String := s!"{s.start}..{s.stop}"

end Span

structure Spanned (α : Type) where
  node : α
  span : Span
  deriving Repr, DecidableEq, Inhabited

end OperatorLowering
