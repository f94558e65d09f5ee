import WikiPress.Pattern.CharSet

/-!
# Pattern/Syntax — patterns as trees

A pattern tests characters and positions, in sequence, in alternatives that are tried in order, and
repeated.  Flags have done their work when the tree is built, so a tree means the same wherever it
stands.
-/

namespace WikiPress.Pattern

/-- A test of the position between two characters. -/
inductive Assertion
  /-- The beginning of the text. -/
  | textStart
  /-- The end of the text. -/
  | textEnd
  /-- The beginning of a line; with `crlf` a carriage return ends a line as well. -/
  | lineStart (crlf : Bool)
  /-- The end of a line. -/
  | lineEnd (crlf : Bool)
  /-- A position between a word character and another; `full` asks for words of every script. -/
  | wordEdge (full : Bool)
  /-- A position that is no word edge. -/
  | notWordEdge (full : Bool)
  /-- A word edge with the word after it. -/
  | wordStart (full : Bool)
  /-- A word edge with the word before it. -/
  | wordEnd (full : Bool)
  /-- No word character before the position. -/
  | noWordBefore (full : Bool)
  /-- No word character after the position. -/
  | noWordAfter (full : Bool)
deriving DecidableEq, Repr

/-- Whether the neighbour of a position is a word character. -/
def isWordNeighbour (full : Bool) : Option Char → Bool
  | none => false
  | some c => if full then Text.isWord c else Text.isLetterDigit c

/-- Whether a position between `before` and `after` passes a test; `none` is an end of the text. -/
def Assertion.holds (before after : Option Char) : Assertion → Bool
  | textStart => before.isNone
  | textEnd => after.isNone
  | lineStart false => before.isNone || before == some '\n'
  | lineStart true =>
    before.isNone || before == some '\n' || (before == some '\r' && after != some '\n')
  | lineEnd false => after.isNone || after == some '\n'
  | lineEnd true =>
    after.isNone || after == some '\r' || (after == some '\n' && before != some '\r')
  | wordEdge full => isWordNeighbour full before != isWordNeighbour full after
  | notWordEdge full => isWordNeighbour full before == isWordNeighbour full after
  | wordStart full => !isWordNeighbour full before && isWordNeighbour full after
  | wordEnd full => isWordNeighbour full before && !isWordNeighbour full after
  | noWordBefore full => !isWordNeighbour full before
  | noWordAfter full => !isWordNeighbour full after

/-- A pattern. -/
inductive Expr
  /-- Matches the empty text. -/
  | empty
  /-- Matches one character of a set. -/
  | one (set : CharSet)
  /-- Matches the empty text where a test holds. -/
  | assert (assertion : Assertion)
  /-- Matches as the body does, and notes where under the number of the group. -/
  | group (index : Nat) (body : Expr)
  /-- Matches the body at least `min` times and at most `max` times in a row; more is preferred if
  `greedy`. -/
  | repeated (min : Nat) (max : Option Nat) (greedy : Bool) (body : Expr)
  /-- Matches one pattern after another. -/
  | seq (a b : Expr)
  /-- Matches either pattern, preferably the first. -/
  | alt (a b : Expr)
deriving DecidableEq, Repr

namespace Expr

/-- The number of steps a pattern takes as a program. -/
def size : Expr → Nat
  | empty => 1
  | one _ => 1
  | assert _ => 1
  | group _ body => body.size + 2
  | repeated min max _ body => max.getD (min + 1) * (body.size + 1) + 1
  | seq a b => a.size + b.size
  | alt a b => a.size + b.size + 1

/-- How deeply groups and repetitions are nested. -/
def depth : Expr → Nat
  | empty | one _ | assert _ => 0
  | group _ body => body.depth + 1
  | repeated _ _ _ body => body.depth + 1
  | seq a b => max a.depth b.depth
  | alt a b => max a.depth b.depth

/-- Patterns one after another. -/
def seqs : List Expr → Expr
  | [] => empty
  | [e] => e
  | e :: rest => seq e (seqs rest)

/-- Patterns as alternatives. -/
def alts : List Expr → Expr
  | [] => empty
  | [e] => e
  | e :: rest => alt e (alts rest)

end Expr

end WikiPress.Pattern

namespace WikiPress

/-- A pattern as it was written, with what it means. -/
structure Pattern where
  /-- The written form. -/
  source : Text
  /-- The tree. -/
  expr : Pattern.Expr
  /-- The numbers of the named groups. -/
  names : List (Text × Nat)
deriving DecidableEq, Repr

end WikiPress
