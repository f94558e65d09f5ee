import WikiPress.Markdown.Escape
import WikiPress.Markdown.Syntax

/-!
# Markdown/Link — how the target of a link is written

A target is written after the text of a link, or once for a label and then referred to by it.  Either
way it is a destination, in angle brackets or without white space, and an optional title in quotes or
parentheses.  `definitions` takes the definitions of labels from the beginning of a paragraph.
-/

namespace WikiPress.Markdown

/-! ## Destinations, titles and labels -/

/-- The destination up to its closing angle bracket, with what follows it, which must not be
nothing. -/
def angledDestination? : Text → Option (Text × Text)
  | [] => none
  | '>' :: t => if t.isEmpty then none else some ([], t)
  | '\\' :: c :: t => (angledDestination? t).map fun (url, rest) => ('\\' :: c :: url, rest)
  | c :: t =>
    if c == '\n' || c == '<' || c == '\\' then none
    else (angledDestination? t).map fun (url, rest) => (c :: url, rest)

/-- The destination without angle brackets, with what follows it.  It ends before white space, a
control character or a closing parenthesis without an opening one; `depth` counts the open ones, and
`escaped` tells whether the next character is escaped. -/
def plainDestination? : (depth : Nat) → (escaped : Bool) → Text → Option (Text × Text)
  | _, _, [] => none
  | depth, true, c :: t => (plainDestination? depth false t).map fun (url, rest) => (c :: url, rest)
  | depth, false, c :: t =>
    if c == '\\' && beginsPunctuated t then
      (plainDestination? depth true t).map fun (url, rest) => (c :: url, rest)
    else if c == '(' then
      if depth == 32 then none
      else (plainDestination? (depth + 1) false t).map fun (url, rest) => (c :: url, rest)
    else if c == ')' then
      if depth == 0 then some ([], c :: t)
      else (plainDestination? (depth - 1) false t).map fun (url, rest) => (c :: url, rest)
    else if c.toNat ≤ 32 || c.toNat == 127 then
      if depth == 0 then some ([], c :: t) else none
    else (plainDestination? depth false t).map fun (url, rest) => (c :: url, rest)

/-- **The destination a text begins with**, as it is written, with what follows it. -/
def destination? (t : Text) : Option (Text × Text) :=
  match t with
  | '<' :: r => angledDestination? r
  | c :: _ => if c.toNat ≤ 32 || c.toNat == 127 then none else plainDestination? 0 false t
  | [] => none

/-- The rest of a title with its closing delimiter, and what follows.  A closing delimiter after a
backslash ends the title only if no other one can. -/
def titleEnd? (opener closer : Char) : (before : Char) → Text → Option (Text × Text)
  | _, [] => none
  | before, c :: t =>
    if c == closer then
      match (if before == '\\' then titleEnd? opener closer c t else none) with
      | some (title, rest) => some (c :: title, rest)
      | none => some ([c], t)
    else if c == opener && before != '\\' then none
    else (titleEnd? opener closer c t).map fun (title, rest) => (c :: title, rest)

/-- **The title a text begins with**, its delimiters included, with what follows it. -/
def title? (t : Text) : Option (Text × Text) :=
  match t with
  | c :: r =>
    if c == '"' || c == '\'' then (titleEnd? c c c r).map fun (title, rest) => (c :: title, rest)
    else if c == '(' then (titleEnd? '(' ')' c r).map fun (title, rest) => (c :: title, rest)
    else none
  | [] => none

/-- A label up to its closing bracket, with what follows. -/
def labelEnd? : (escaped : Bool) → Text → Option (Text × Text)
  | _, [] => none
  | true, c :: t => (labelEnd? false t).map fun (label, rest) => (c :: label, rest)
  | false, c :: t =>
    if c == ']' then some ([], t)
    else if c == '[' then none
    else (labelEnd? (c == '\\' && beginsPunctuated t) t).map fun (label, rest) => (c :: label, rest)

/-- **The bracketed label a text begins with**, with what follows it.  A label has at most 1000
bytes. -/
def label? (t : Text) : Option (Text × Text) :=
  match t with
  | '[' :: r =>
    match labelEnd? false r with
    | some (label, rest) =>
      if Text.byteLength label ≤ 1000 then some (trimSpace label, rest) else none
    | none => none
  | _ => none

/-! ## Targets -/

/-- The title after the white space that follows a destination, with what follows it; an empty title
if there is none. -/
def titleAfter (t : Text) : Text × Text :=
  let skipped := t.dropWhile isSpace
  if skipped.length == t.length then ([], t)
  else (title? skipped).getD ([], skipped)

/-- **The parenthesised target a text begins with**, with what follows it. -/
def inlineTarget? (t : Text) : Option (Target × Text) :=
  match t with
  | '(' :: r =>
    match destination? (r.dropWhile isSpace) with
    | some (url, r) =>
      let (title, r) := titleAfter r
      match r.dropWhile isSpace with
      | ')' :: rest => some (⟨cleanUrl url, cleanTitle title⟩, rest)
      | _ => none
    | none => none
  | _ => none

/-- What follows the blanks and at most one line end. -/
def skipLineBreak (t : Text) : Text :=
  match t.dropWhile Text.isSpaceOrTab with
  | '\n' :: r => r.dropWhile Text.isSpaceOrTab
  | r => r

/-- What follows the line, if nothing but blanks is left on it. -/
def lineEnd? (t : Text) : Option Text :=
  match t.dropWhile Text.isSpaceOrTab with
  | '\n' :: r => some r
  | [] => some []
  | _ => none

/-- The definition of a label that a text begins with, with what follows it.  A title that does not
end its line is not a part of the definition. -/
def definition? (t : Text) : Option ((Text × Target) × Text) :=
  match label? t with
  | some (label, ':' :: r) =>
    if label.isEmpty then none
    else
      match destination? (skipLineBreak r) with
      | none => none
      | some (url, r) =>
        let spaced := skipLineBreak r
        let titled := if spaced.length == r.length then none else title? spaced
        let finish := fun (title rest : Text) =>
          ((labelKey label, (⟨cleanUrl url, cleanTitle title⟩ : Target)), rest)
        match titled with
        | none => (lineEnd? r).map (finish [])
        | some (title, after) =>
          match lineEnd? after with
          | some rest => some (finish title rest)
          | none => (lineEnd? r).map (finish [])
  | _ => none

/-- Take definitions from the beginning of a text, at most `fuel`. -/
def definitionsWithin : (fuel : Nat) → Text → List (Text × Target) × Text
  | 0, t => ([], t)
  | fuel + 1, t =>
    match definition? t with
    | none => ([], t)
    | some (d, rest) =>
      let (ds, rest) := definitionsWithin fuel rest
      (d :: ds, rest)

/-- **The definitions a paragraph begins with**, and the rest of it. -/
def definitions (t : Text) : List (Text × Target) × Text := definitionsWithin t.length t

end WikiPress.Markdown
