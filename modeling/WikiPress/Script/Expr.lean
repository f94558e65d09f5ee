import WikiPress.Script.Token

/-!
# Script/Expr — the expressions of the script language

A program is one expression, after an optional `return` and before an optional semicolon.  Sums are
read from left to right; method calls bind tighter, and their empty argument lists may be left out.
Every reader takes the tokens and gives back those it leaves; `fuel` bounds the nesting, and every
token allows for more of it than a script can use.
-/

namespace WikiPress.Script

/-- An expression. -/
inductive Expr
  /-- A string literal. -/
  | str (text : Text)
  /-- An integer literal. -/
  | int (value : Nat)
  /-- A name. -/
  | ident (name : Text)
  /-- A call of a host function. -/
  | call (name : Text) (args : List Expr)
  /-- A call of a method of a value. -/
  | method (target : Expr) (name : Text) (args : List Expr)
  /-- A sum or a concatenation. -/
  | add (left right : Expr)
deriving Repr

mutual

/-- Operands joined by plus signs. -/
def readSum : (fuel : Nat) → List Token → Except SyntaxFault (Expr × List Token)
  | 0, _ => .error .unexpectedEnd
  | fuel + 1, ts => do
    let (first, ts) ← readOperand fuel ts
    readTerms fuel first ts

/-- The rest of a sum after its terms so far. -/
def readTerms : (fuel : Nat) → Expr → List Token → Except SyntaxFault (Expr × List Token)
  | fuel + 1, left, .plus :: ts => do
    let (right, ts) ← readOperand fuel ts
    readTerms fuel (.add left right) ts
  | _, left, ts => .ok (left, ts)

/-- A primary expression and the methods called on it. -/
def readOperand : (fuel : Nat) → List Token → Except SyntaxFault (Expr × List Token)
  | 0, _ => .error .unexpectedEnd
  | fuel + 1, ts => do
    let (target, ts) ← readPrimary fuel ts
    readMethods fuel target ts

/-- The methods called on a target. -/
def readMethods : (fuel : Nat) → Expr → List Token → Except SyntaxFault (Expr × List Token)
  | fuel + 1, target, .dot :: .ident name :: .lparen :: ts => do
    let (args, ts) ← readArgs fuel ts
    readMethods fuel (.method target name args) ts
  | fuel + 1, target, .dot :: .ident name :: ts => readMethods fuel (.method target name []) ts
  | _ + 1, _, .dot :: _ => .error .missingMethodName
  | _, target, ts => .ok (target, ts)

/-- A literal, a name, a call or an expression in parentheses. -/
def readPrimary : (fuel : Nat) → List Token → Except SyntaxFault (Expr × List Token)
  | 0, _ => .error .unexpectedEnd
  | fuel + 1, ts =>
    match ts with
    | .str text :: ts => .ok (.str text, ts)
    | .int value :: ts => .ok (.int value, ts)
    | .ident name :: .lparen :: ts => do
      let (args, ts) ← readArgs fuel ts
      return (.call name args, ts)
    | .ident name :: ts => .ok (.ident name, ts)
    | .lparen :: ts => do
      let (inner, ts) ← readSum fuel ts
      match ts with
      | .rparen :: ts => return (inner, ts)
      | _ => throw .missingParenthesis
    | other :: _ => .error (.unexpectedToken other)
    | [] => .error .unexpectedEnd

/-- The arguments after an opening parenthesis, with the closing one. -/
def readArgs : (fuel : Nat) → List Token → Except SyntaxFault (List Expr × List Token)
  | 0, _ => .error .unexpectedEnd
  | fuel + 1, ts =>
    match ts with
    | .rparen :: ts => .ok ([], ts)
    | ts => readArgList fuel ts

/-- One argument and those after it, with the closing parenthesis. -/
def readArgList : (fuel : Nat) → List Token → Except SyntaxFault (List Expr × List Token)
  | 0, _ => .error .unexpectedEnd
  | fuel + 1, ts => do
    let (arg, ts) ← readSum fuel ts
    match ts with
    | .rparen :: ts => return ([arg], ts)
    | .comma :: ts =>
      let (args, ts) ← readArgList fuel ts
      return (arg :: args, ts)
    | _ => throw .missingComma

end

/-- Nesting that no script of these tokens exceeds. -/
def nestingBound (ts : List Token) : Nat := 5 * ts.length + 8

/-- **The expression of a program.** -/
def readProgram (ts : List Token) : Except SyntaxFault Expr := do
  let ts := match ts with
    | .ident name :: rest => if name == lit "return" then rest else ts
    | _ => ts
  let (expr, ts) ← readSum (nestingBound ts) ts
  match ts with
  | [] => return expr
  | [.semi] => return expr
  | .semi :: other :: _ => throw (.unexpectedToken other)
  | other :: _ => throw (.unexpectedToken other)

end WikiPress.Script
