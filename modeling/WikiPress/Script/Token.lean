import WikiPress.Text.Letter
import WikiPress.Text.Number
import WikiPress.Text.Quoted

/-!
# Script/Token — the words of the script language

A script is cut into string literals, integers, identifiers and single-character marks; blanks only
separate.  Integers are signed numbers of 64 bits.
-/

namespace WikiPress.Script

/-- A word of a script. -/
inductive Token
  /-- A string literal, its escapes resolved. -/
  | str (text : Text)
  /-- An integer literal. -/
  | int (value : Nat)
  /-- An identifier. -/
  | ident (name : Text)
  | plus
  | lparen
  | rparen
  | comma
  | dot
  | semi
deriving DecidableEq, Repr

/-- A token as error messages show it. -/
def Token.display : Token → Text
  | .str text => lit "Str(" ++ Text.quoted text ++ [')']
  | .int value => lit "Int(" ++ Text.ofNat value ++ [')']
  | .ident name => lit "Ident(" ++ Text.quoted name ++ [')']
  | .plus => lit "Plus"
  | .lparen => lit "LParen"
  | .rparen => lit "RParen"
  | .comma => lit "Comma"
  | .dot => lit "Dot"
  | .semi => lit "Semi"

/-- Why a text is no script. -/
inductive SyntaxFault
  /-- A string literal is not closed. -/
  | unterminatedString
  /-- A character begins no token. -/
  | unexpectedCharacter (c : Char)
  /-- A token stands where none of its kind may stand. -/
  | unexpectedToken (token : Token)
  /-- The script ends too early. -/
  | unexpectedEnd
  /-- No identifier follows a dot. -/
  | missingMethodName
  /-- A parenthesis is not closed. -/
  | missingParenthesis
  /-- An argument is followed by neither a comma nor the end of the list. -/
  | missingComma
  /-- An integer literal beyond the signed range of 64 bits. -/
  | integerTooLarge (digits : Text)
deriving DecidableEq, Repr

/-- A character that may begin an identifier. -/
def startsIdent (c : Char) : Bool := Text.isAlphabetic c || c == '_' || c == '$'

/-- A character that may continue an identifier. -/
def continuesIdent (c : Char) : Bool := Text.isAlphanumeric c || c == '_' || c == '$'

/-- The character that a backslash and `c` stand for. -/
def unescape (c : Char) : Char :=
  if c == 'n' then '\n' else if c == 't' then '\t' else if c == 'r' then '\r' else c

/-- The text of a string literal up to its closing `quote`, and what follows; `seen` holds the
characters read, the last first. -/
def stringBody? (quote : Char) : (seen : Text) → Text → Option (Text × Text)
  | _, [] => none
  | seen, c :: t =>
    if c == quote then some (seen.reverse, t)
    else if c == '\\' then
      match t with
      | [] => none
      | d :: t => stringBody? quote (unescape d :: seen) t
    else stringBody? quote (c :: seen) t

/-- The mark that a character is. -/
def mark? (c : Char) : Option Token :=
  if c == '+' then some .plus
  else if c == '(' then some .lparen
  else if c == ')' then some .rparen
  else if c == ',' then some .comma
  else if c == '.' then some .dot
  else if c == ';' then some .semi
  else none

/-- The token that a text without leading blanks begins with, and what follows. -/
def token (c : Char) (t : Text) : Except SyntaxFault (Token × Text) :=
  if c == '"' || c == '\'' || c == '`' then
    match stringBody? c [] t with
    | some (text, rest) => .ok (.str text, rest)
    | none => .error .unterminatedString
  else if Text.isDigit c then
    let digits := c :: t.takeWhile Text.isDigit
    let value := Text.decimalValue digits
    if value ≤ Text.maxSigned then .ok (.int value, t.dropWhile Text.isDigit)
    else .error (.integerTooLarge digits)
  else if startsIdent c then
    .ok (.ident (c :: t.takeWhile continuesIdent), t.dropWhile continuesIdent)
  else
    match mark? c with
    | some token => .ok (token, t)
    | none => .error (.unexpectedCharacter c)

/-- The tokens of a text, at most `fuel` of them. -/
def tokensWithin : (fuel : Nat) → Text → Except SyntaxFault (List Token)
  | 0, _ => .ok []
  | fuel + 1, t =>
    match Text.trimStart t with
    | [] => .ok []
    | c :: t => do
      let (first, rest) ← token c t
      return first :: (← tokensWithin fuel rest)

/-- **The tokens of a script.** -/
def tokens (source : Text) : Except SyntaxFault (List Token) := tokensWithin source.length source

end WikiPress.Script
