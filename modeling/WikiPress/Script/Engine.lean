import WikiPress.Script.Value

/-!
# Script/Engine — evaluating a script

A script sees the path and the text of the file it stands in, and the functions of its host.  It
reads nothing else and changes nothing.
-/

namespace WikiPress.Script

/-- What a script sees. -/
structure Scope where
  /-- The path of the file that holds the script. -/
  path : Text
  /-- The text of that file. -/
  data : Text
deriving Repr

/-- The functions a host offers, by name. -/
abbrev Functions := List (Text × (List Value → Outcome))

/-- The value of a name. -/
def lookupName (scope : Scope) (name : Text) : Outcome :=
  if name == lit "path" then .ok (.str scope.path)
  else if name == lit "data" then .ok (.str scope.data)
  else if name == lit "true" then .ok (.bool true)
  else if name == lit "false" then .ok (.bool false)
  else .error (.undefined name)

mutual

/-- The value of an expression. -/
def Expr.eval (functions : Functions) (scope : Scope) : Expr → Outcome
  | .str text => .ok (.str text)
  | .int value => .ok (.int value)
  | .ident name => lookupName scope name
  | .call name args =>
    match functions.lookup name with
    | none => .error (.undefined name)
    | some function => do function (← evalAll functions scope args)
  | .method target name args => do
    let target ← target.eval functions scope
    callMethod target name (← evalAll functions scope args)
  | .add left right => do
    let left ← left.eval functions scope
    add left (← right.eval functions scope)

/-- The values of expressions, from the first to the last. -/
def evalAll (functions : Functions) (scope : Scope) : List Expr → Except Fault (List Value)
  | [] => .ok []
  | e :: rest => do
    let v ← e.eval functions scope
    return v :: (← evalAll functions scope rest)

end

/-- The expression a source text writes. -/
def parse (source : Text) : Except SyntaxFault Expr := do readProgram (← tokens source)

/-- **Evaluate a script**: the value of its expression as text, or the fault that stopped it. -/
def evaluate (functions : Functions) (source : Text) (scope : Scope) : Except Fault Text :=
  match parse source with
  | .error cause => .error (.notScript cause)
  | .ok expr =>
    match expr.eval functions scope with
    | .error fault => .error fault
    | .ok value => .ok value.display

end WikiPress.Script
