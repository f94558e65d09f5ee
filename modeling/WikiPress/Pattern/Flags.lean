import WikiPress.Pattern.Syntax

/-!
# Pattern/Flags — what the flags of a pattern change

Flags hold from where they are set to the end of the group they stand in.  They decide which set a
letter, a dot or a class means and which test an anchor is; without `scripts` a pattern speaks of
ASCII only, and whatever would match anything else is refused.
-/

namespace WikiPress.Pattern

/-- The flags in force. -/
structure Flags where
  /-- `i`: letters match without regard to case. -/
  anyCase : Bool := false
  /-- `m`: anchors match at lines. -/
  lines : Bool := false
  /-- `s`: the dot matches line ends as well. -/
  dotAll : Bool := false
  /-- `U`: repetitions prefer less, and more after a question mark. -/
  lazy : Bool := false
  /-- `R`: a carriage return ends a line as well. -/
  crlf : Bool := false
  /-- `x`: blanks and comments mean nothing. -/
  verbose : Bool := false
  /-- `u`: classes are those of all scripts. -/
  scripts : Bool := true
deriving DecidableEq, Repr

namespace Flags

/-- The flags after the flag with a letter is set or cleared. -/
def set? (flags : Flags) (letter : Char) (on : Bool) : Option Flags :=
  match letter with
  | 'i' => some { flags with anyCase := on }
  | 'm' => some { flags with lines := on }
  | 's' => some { flags with dotAll := on }
  | 'U' => some { flags with lazy := on }
  | 'R' => some { flags with crlf := on }
  | 'x' => some { flags with verbose := on }
  | 'u' => some { flags with scripts := on }
  | _ => none

/-- What follows the flags that open a group: those in force, whether any was named, and the
character that ends them. -/
structure Opening where
  /-- The flags in force. -/
  flags : Flags
  /-- Whether nothing stood between the question mark and the end. -/
  bare : Bool
  /-- Whether the flags end with a colon, so that a group follows. -/
  grouped : Bool

/-- Read flags up to a colon or a closing parenthesis; `seen` are the letters read, `off` tells
whether the hyphen has been read, and `dangling` whether it was last. -/
def readFrom (flags : Flags) (seen : List Char) (off dangling : Bool) : Text → Option (Opening × Text)
  | [] => none
  | c :: t =>
    if c == ':' || c == ')' then
      if dangling then none else some (⟨flags, seen.isEmpty && !off, c == ':'⟩, t)
    else if c == '-' then if off then none else readFrom flags seen true true t
    else if seen.contains c then none
    else match flags.set? c (!off) with
      | none => none
      | some flags => readFrom flags (c :: seen) off false t

/-- Drop blanks and comments; `comment` tells whether a comment is being dropped. -/
def dropInsignificant : (comment : Bool) → Text → Text
  | _, [] => []
  | true, c :: t => dropInsignificant (c != '\n') t
  | false, c :: t =>
    if Text.isBlank c then dropInsignificant false t
    else if c == '#' then dropInsignificant true t
    else c :: t

/-- The text from the next character that counts. -/
def skip (flags : Flags) (t : Text) : Text :=
  if flags.verbose then dropInsignificant false t else t

/-- A set under the flag for letter case. -/
def fold (flags : Flags) (s : CharSet) : CharSet :=
  if flags.anyCase then if flags.scripts then .folded s else s.foldedAscii else s

/-- The set of a literal character. -/
def literal? (flags : Flags) (c : Char) : Option CharSet :=
  if flags.anyCase && !flags.scripts && 128 ≤ c.toNat then none else some (flags.fold (.single c))

/-- The set of the dot. -/
def dot? (flags : Flags) : Option CharSet :=
  if !flags.scripts then none
  else if flags.dotAll then some (.property .any)
  else if flags.crlf then some (.compl (.union (.single '\n') (.single '\r')))
  else some (.compl (.single '\n'))

/-- The test of a circumflex. -/
def caret (flags : Flags) : Assertion := if flags.lines then .lineStart flags.crlf else .textStart

/-- The test of a dollar sign. -/
def dollar (flags : Flags) : Assertion := if flags.lines then .lineEnd flags.crlf else .textEnd

/-- The complement if `negated`; refused where only ASCII is allowed. -/
def complIf? (flags : Flags) (negated : Bool) (s : CharSet) : Option CharSet :=
  if negated && !flags.scripts then none else some (.complIf negated s)

end Flags

end WikiPress.Pattern
