import WikiPress.Pattern.Flags
import WikiPress.Pattern.Named
import WikiPress.Text.Split

/-!
# Pattern/Escape — what a backslash means

A backslash makes punctuation literal, names control characters and characters by their code point,
names classes, and stands for tests that have no sign of their own.  Whatever else follows it is
refused, so that new meanings stay possible; references to earlier groups are refused too.
-/

namespace WikiPress.Pattern

/-- What one element of a pattern is. -/
inductive Atom
  /-- A character; `byte` if it was written by two hexadecimal digits. -/
  | literal (c : Char) (byte : Bool)
  /-- A class. -/
  | set (set : CharSet)
  /-- A test. -/
  | assertion (assertion : Assertion)
deriving Repr

namespace Atom

/-- The set of an atom outside brackets, or the test. -/
def toExpr? (flags : Flags) : Atom → Option Expr
  | literal c byte =>
    if byte && !flags.scripts && 128 ≤ c.toNat then none else (flags.literal? c).map .one
  | set s => some (.one s)
  | assertion a => some (.assert a)

/-- The set of an atom within brackets. -/
def toSet? (flags : Flags) : Atom → Option CharSet
  | literal c _ => if !flags.scripts && 128 ≤ c.toNat then none else some (.single c)
  | set s => some s
  | assertion _ => none

/-- The character of an atom, for the end of a range. -/
def toChar? (flags : Flags) : Atom → Option Char
  | literal c _ => if !flags.scripts && 128 ≤ c.toNat then none else some c
  | _ => none

end Atom

/-- The character with a code point that is written in hexadecimal digits. -/
def charOfHex? (digits : Text) : Option Char :=
  let n := digits.foldl (fun n c => n * 16 + (Text.hexDigit? c).getD 0) 0
  if h : n.isValidChar then some (Char.ofNatAux n h) else none

/-- Exactly `n` hexadecimal digits, and what follows them. -/
def hexDigits? (flags : Flags) : (n : Nat) → Text → Option (Text × Text)
  | 0, t => some ([], t)
  | _ + 1, [] => none
  | n + 1, c :: t =>
    if (Text.hexDigit? c).isNone then none
    else (hexDigits? flags n (flags.skip t)).map fun (digits, rest) => (c :: digits, rest)

/-- The text up to a closing brace, and what follows the brace; within `fuel` characters. -/
def braced? (flags : Flags) : (fuel : Nat) → Text → Option (Text × Text)
  | 0, _ => none
  | fuel + 1, t => match flags.skip t with
    | [] => none
    | c :: t =>
      if c == Char.ofNat 125 then some ([], t)
      else (braced? flags fuel t).map fun (content, rest) => (c :: content, rest)

/-- A character written by its code point: `count` digits, or any number of them in braces. -/
def readHex? (flags : Flags) (count : Nat) (t : Text) : Option (Atom × Text) :=
  match flags.skip t with
  | [] => none
  | c :: t =>
    if c == Char.ofNat 123 then
      match braced? flags (t.length + 1) t with
      | none => none
      | some (digits, rest) =>
        if digits.isEmpty || digits.any fun d => (Text.hexDigit? d).isNone then none
        else (charOfHex? digits).map fun c => (.literal c false, flags.skip rest)
    else match hexDigits? flags count (c :: t) with
      | none => none
      | some (digits, rest) => (charOfHex? digits).map fun c => (.literal c (count == 2), rest)

/-- The set that the text in the braces of a property names, and whether its complement is meant. -/
def propertySet? (content : Text) : Option (Bool × CharSet) :=
  match Text.cut? (lit "!=") content with
  | some (name, value) => (ofPropertyValue? name value).map fun s => (true, s)
  | none =>
    match (Text.cut? [':'] content).orElse fun _ => Text.cut? ['='] content with
    | some (name, value) => (ofPropertyValue? name value).map fun s => (false, s)
    | none => (ofPropertyName? content).map fun s => (false, s)

/-- A class by property, after the letter that announces it. -/
def readProperty? (flags : Flags) (negated : Bool) (t : Text) : Option (Atom × Text) :=
  let named := match flags.skip t with
    | [] => none
    | c :: t =>
      if c == Char.ofNat 123 then
        match braced? flags (t.length + 1) t with
        | none => none
        | some (content, rest) => (propertySet? content).map fun found => (found, rest)
      else if c == '\\' then none
      else (ofPropertyName? [c]).map fun s => ((false, s), flags.skip t)
  match named with
  | none => none
  | some ((inverse, s), rest) =>
    if !flags.scripts then none
    else some (.set (.complIf (negated != inverse) (flags.fold s)), rest)

/-- Characters that a backslash makes literal: ASCII that is neither letter, digit nor angle
bracket. -/
def isEscapable (c : Char) : Bool :=
  c.toNat < 128 && !Text.isLetter c && !Text.isDigit c && c != '<' && c != '>'

/-- The test that a name in braces after `\b` asks for. -/
def wordTest? (full : Bool) (name : Text) : Option Assertion :=
  if name == lit "start" then some (.wordStart full)
  else if name == lit "end" then some (.wordEnd full)
  else if name == lit "start-half" then some (.noWordBefore full)
  else if name == lit "end-half" then some (.noWordAfter full)
  else none

/-- The word test after `\b`.  A brace that is no name belongs to a repetition. -/
def readWordEdge? (flags : Flags) (t : Text) : Option (Atom × Text) :=
  let edge := Atom.assertion (.wordEdge flags.scripts)
  match t with
  | [] => some (edge, [])
  | c :: r =>
    if c == Char.ofNat 123 then
      let inner := flags.skip r
      match inner with
      | [] => none
      | d :: _ =>
        if Text.isLetter d || d == '-' then
          let name := inner.takeWhile fun d => Text.isLetter d || d == '-'
          match inner.dropWhile fun d => Text.isLetter d || d == '-' with
          | [] => none
          | e :: rest =>
            if e == Char.ofNat 125 then
              (wordTest? flags.scripts name).map fun a => (.assertion a, rest)
            else none
        else some (edge, t)
    else some (edge, t)

/-- **What follows a backslash**, read. -/
def readEscape? (flags : Flags) : Text → Option (Atom × Text)
  | [] => none
  | c :: t => match c with
    | 'x' => readHex? flags 2 t
    | 'u' => readHex? flags 4 t
    | 'U' => readHex? flags 8 t
    | 'p' => readProperty? flags false t
    | 'P' => readProperty? flags true t
    | 'a' => some (.literal (Char.ofNat 7) false, t)
    | 'f' => some (.literal (Char.ofNat 12) false, t)
    | 't' => some (.literal '\t' false, t)
    | 'n' => some (.literal '\n' false, t)
    | 'r' => some (.literal '\r' false, t)
    | 'v' => some (.literal (Char.ofNat 11) false, t)
    | 'A' => some (.assertion .textStart, t)
    | 'z' => some (.assertion .textEnd, t)
    | 'b' => readWordEdge? flags t
    | 'B' => some (.assertion (.notWordEdge flags.scripts), t)
    | '<' => some (.assertion (.wordStart flags.scripts), t)
    | '>' => some (.assertion (.wordEnd flags.scripts), t)
    | c => match CharSet.ofLetter? flags.scripts c with
      | some (negated, s) => (flags.complIf? negated s).map fun s => (.set s, t)
      | none => if isEscapable c then some (.literal c false, t) else none

end WikiPress.Pattern
