import WikiPress.Script.Expr
import WikiPress.Text.Case
import WikiPress.Text.Split

/-!
# Script/Value — the values of scripts and their methods

Strings, signed integers of 64 bits, booleans and lists.  The methods never change their target; a
call that makes no sense is a fault with a kind and a message of its own.
-/

namespace WikiPress.Script

/-- A value. -/
inductive Value
  | str (text : Text)
  | int (n : Int)
  | bool (b : Bool)
  | list (items : List Value)
deriving Repr, BEq

/-- The name of a value's type. -/
def Value.typeName : Value → Text
  | .str _ => lit "string"
  | .int _ => lit "number"
  | .bool _ => lit "boolean"
  | .list _ => lit "list"

mutual

/-- A value as text; the items of a list are separated by commas. -/
def Value.display : Value → Text
  | .str text => text
  | .int n => Text.ofInt n
  | .bool true => lit "true"
  | .bool false => lit "false"
  | .list items => displayItems items

/-- Values as text, separated by commas. -/
def displayItems : List Value → Text
  | [] => []
  | [v] => v.display
  | v :: rest => v.display ++ ',' :: displayItems rest

end

/-- Why a script failed. -/
inductive Fault
  /-- The source is no script. -/
  | notScript (cause : SyntaxFault)
  /-- A name or a host function is not known. -/
  | undefined (name : Text)
  /-- A sum of values that cannot be added. -/
  | cannotAdd (left right : Text)
  /-- A sum beyond the signed range of 64 bits. -/
  | overflow
  /-- A method was given the wrong number of arguments. -/
  | argumentCount (method : Text) (expected got : Nat)
  /-- `join` was given more than one argument. -/
  | joinArguments
  /-- A method was given an argument of the wrong type. -/
  | argumentType (method expected got : Text)
  /-- A value has no method of that name. -/
  | noMethod (type method : Text)
  /-- An index that no text or list has. -/
  | badIndex (index : Int)
  /-- An index past the end of a list. -/
  | pastEnd (index length : Nat)
  /-- `first` or `last` of an empty list. -/
  | emptyList (method : Text)
  /-- A fault of a host function. -/
  | host (name message : Text)
deriving DecidableEq, Repr

namespace SyntaxFault

/-- The message of a fault in the source. -/
def message : SyntaxFault → Text
  | .unterminatedString => lit "unterminated string literal"
  | .unexpectedCharacter c => lit "unexpected character '" ++ [c, '\'']
  | .unexpectedToken token => lit "unexpected token " ++ token.display
  | .unexpectedEnd => lit "unexpected end of input"
  | .missingMethodName => lit "expected a method name after '.'"
  | .missingParenthesis => lit "expected ')'"
  | .missingComma => lit "expected ',' or ')'"
  | .integerTooLarge digits => lit "number " ++ digits ++ lit " out of range"

end SyntaxFault

namespace Fault

/-- The kind of a fault. -/
def name : Fault → Text
  | .notScript (.integerTooLarge _) => lit "RangeError"
  | .notScript _ => lit "SyntaxError"
  | .undefined _ => lit "ReferenceError"
  | .cannotAdd .. | .argumentCount .. | .joinArguments | .argumentType .. | .noMethod .. =>
    lit "TypeError"
  | .overflow | .badIndex _ | .pastEnd .. | .emptyList _ => lit "RangeError"
  | .host name _ => name

/-- The message of a fault. -/
def message : Fault → Text
  | .notScript cause => cause.message
  | .undefined name => name ++ lit " is not defined"
  | .cannotAdd left right => lit "cannot add " ++ left ++ lit " and " ++ right
  | .overflow => lit "integer overflow"
  | .argumentCount method expected got =>
    method ++ lit " expects " ++ Text.ofNat expected ++ lit " argument(s), got " ++ Text.ofNat got
  | .joinArguments => lit "join expects 0 or 1 argument(s)"
  | .argumentType method expected got =>
    method ++ lit " expects a " ++ expected ++ lit ", got " ++ got
  | .noMethod type method => type ++ '.' :: method ++ lit " is not a function"
  | .badIndex index => lit "index " ++ Text.ofInt index ++ lit " out of range"
  | .pastEnd index length =>
    lit "index " ++ Text.ofNat index ++ lit " out of range for length " ++ Text.ofNat length
  | .emptyList method => method ++ lit " of an empty list"
  | .host _ message => message

/-- A fault on one line: its kind and its message. -/
def display (f : Fault) : Text := f.name ++ lit ": " ++ f.message

end Fault

/-- The result of a computation that may fail. -/
abbrev Outcome := Except Fault Value

/-- The sum of two integers, or the concatenation of two values one of which is a string. -/
def add : Value → Value → Outcome
  | .int a, .int b =>
    let sum := a + b
    if -(Text.maxSigned : Int) - 1 ≤ sum && sum ≤ Text.maxSigned then .ok (.int sum) else .error .overflow
  | .str a, right => .ok (.str (a ++ right.display))
  | left, .str b => .ok (.str (left.display ++ b))
  | left, right => .error (.cannotAdd left.typeName right.typeName)

/-- The text of an argument that has to be a string. -/
def textArgument (method : Text) : Value → Except Fault Text
  | .str text => .ok text
  | other => .error (.argumentType method (lit "string") other.typeName)

/-- The index of an argument that has to be one. -/
def indexArgument (method : Text) : Value → Except Fault Nat
  | .int (.ofNat n) => .ok n
  | .int n => .error (.badIndex n)
  | other => .error (.argumentType method (lit "number") other.typeName)

/-- The methods of scripts. -/
inductive Method
  | trim | upper | lower | length | lines | split | join | replace | first | last | get | contains
  | startsWith | endsWith
deriving DecidableEq, Repr

/-- The method with a name. -/
def Method.named? (name : Text) : Option Method :=
  [(lit "trim", Method.trim), (lit "upper", .upper), (lit "lower", .lower), (lit "len", .length),
    (lit "length", .length), (lit "lines", .lines), (lit "split", .split), (lit "join", .join),
    (lit "replace", .replace), (lit "first", .first), (lit "last", .last), (lit "get", .get),
    (lit "contains", .contains), (lit "starts_with", .startsWith),
    (lit "ends_with", .endsWith)].lookup name

/-- A value as a list of one-character strings or of pieces. -/
def Value.ofTexts (texts : List Text) : Value := .list (texts.map .str)

/-- A method of a string; `name` is how the script wrote it. -/
def callText (name : Text) (m : Method) (s : Text) (args : List Value) : Outcome :=
  let count (expected : Nat) : Outcome := .error (.argumentCount name expected args.length)
  match m, args with
  | .trim, [] => .ok (.str (Text.trim s))
  | .upper, [] => .ok (.str (Text.toUpper s))
  | .lower, [] => .ok (.str (Text.toLower s))
  | .length, [] => .ok (.int s.length)
  | .lines, [] => .ok (.ofTexts (Text.lines s))
  | .trim, _ | .upper, _ | .lower, _ | .length, _ | .lines, _ => count 0
  | .split, [sep] => do
    let sep ← textArgument name sep
    return .ofTexts (if sep.isEmpty then s.map fun c => [c] else Text.splitText sep s)
  | .contains, [part] => .ok (.bool (Text.contains part.display s))
  | .startsWith, [part] => do return .bool (Text.beginsWith (← textArgument name part) s)
  | .endsWith, [part] => do return .bool (Text.endsWith (← textArgument name part) s)
  | .get, [index] => do
    let index ← indexArgument name index
    match s[index]? with
    | some c => return .str [c]
    | none => throw (.badIndex index)
  | .split, _ | .contains, _ | .startsWith, _ | .endsWith, _ | .get, _ => count 1
  | .replace, [part, by'] => do
    let part ← textArgument name part
    return .str (Text.replaceAll part (← textArgument name by') s)
  | .replace, _ => count 2
  | .join, _ | .first, _ | .last, _ => .error (.noMethod (lit "string") name)

/-- A method of a list; `name` is how the script wrote it. -/
def callList (name : Text) (m : Method) (items : List Value) (args : List Value) : Outcome :=
  let count (expected : Nat) : Outcome := .error (.argumentCount name expected args.length)
  match m, args with
  | .length, [] => .ok (.int items.length)
  | .first, [] =>
    match items.head? with
    | some item => .ok item
    | none => .error (.emptyList name)
  | .last, [] =>
    match items.getLast? with
    | some item => .ok item
    | none => .error (.emptyList name)
  | .length, _ | .first, _ | .last, _ => count 0
  | .get, [index] => do
    let index ← indexArgument name index
    match items[index]? with
    | some item => return item
    | none => throw (.pastEnd index items.length)
  | .contains, [item] => .ok (.bool (items.contains item))
  | .get, _ | .contains, _ => count 1
  | .join, [] => .ok (.str (Text.join [','] (items.map Value.display)))
  | .join, [sep] => do
    return .str (Text.join (← textArgument name sep) (items.map Value.display))
  | .join, _ => .error .joinArguments
  | _, _ => .error (.noMethod (lit "list") name)

/-- Call a method of a value. -/
def callMethod (target : Value) (name : Text) (args : List Value) : Outcome :=
  match target, Method.named? name with
  | .str s, some m => callText name m s args
  | .list items, some m => callList name m items args
  | _, _ => .error (.noMethod target.typeName name)

end WikiPress.Script
