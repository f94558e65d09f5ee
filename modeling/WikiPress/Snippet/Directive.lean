import WikiPress.Path
import WikiPress.Snippet.Template

/-!
# Snippet/Directive — the lines that transclude a document

A directive line reads `## [+#parameters](/path/of/document.md "title")`.  The heading marker, the
parameters and the title may be missing.  The target has to be a Markdown document of the wiki.
-/

namespace WikiPress.Snippet

/-- A line that transcludes a document. -/
structure Directive where
  /-- The whole line. -/
  line : Text
  /-- The canonical path of the document. -/
  target : Text
  /-- The number of heading marks in front, `0` when there are none. -/
  level : Nat
  /-- The parameters of the transclusion. -/
  params : Bindings
deriving DecidableEq, Repr

namespace Directive

/-- The path of a link target `(path)` or `(path "title")` that spans the text. -/
def linkPath? (target : Text) : Option Text :=
  match (Text.strip? ['('] target).bind (Text.stripEnd? [')']) with
  | none => none
  | some inner =>
    let path := inner.takeWhile (!Text.isBlank ·)
    let after := inner.dropWhile (!Text.isBlank ·)
    if path.isEmpty || path.any (fun c => c == '(' || c == ')') then none
    else
      let title := Text.trimStart after
      if title.isEmpty then if after.isEmpty then some path else none
      else
        match (Text.strip? ['"'] title).bind (Text.stripEnd? ['"']) with
        | some quoted => if List.elem '"' quoted then none else some path
        | none => none

/-- Whether `body](` can end a parameter body: the body is not empty and a link target follows. -/
def endsLabel (body target : Text) : Bool := !body.isEmpty && (linkPath? ('(' :: target)).isSome

/-- The longest parameter body that a link target follows.  `seen` holds the characters of the body
passed over, the last first. -/
def longestLabel? : (seen : Text) → Text → Option (Text × Text)
  | _, [] => none
  | seen, c :: t =>
    match longestLabel? (c :: seen) t with
    | some found => some found
    | none =>
      match c, t with
      | ']', '(' :: target =>
        if endsLabel seen target then some (seen.reverse, '(' :: target) else none
      | _, _ => none

/-- The parameter body, if there is one, and the link target of what follows `[+`. -/
def splitLabel? : Text → Option (Option Text × Text)
  | ']' :: target => some (none, target)
  | '#' :: body => (longestLabel? [] body).map fun (label, target) => (some label, target)
  | _ => none

/-- The canonical path of a link path that names a Markdown document of the wiki. -/
def documentPath? (path : Text) : Option Text :=
  if Path.hasScheme path || Text.beginsWith ['#'] path then none
  else
    let path := path.takeWhile fun c => !(c == '?' || c == '#')
    if Text.endsWith (lit ".md") path then Path.normalize? path else none

/-- The level of the heading marker in front of a directive, and what follows it. -/
def headingMark? (line : Text) : Option (Nat × Text) :=
  match line.takeWhile (· == '#') with
  | [] => some (0, line)
  | marks =>
    match line.dropWhile (· == '#') with
    | ' ' :: rest => if 2 ≤ marks.length && marks.length ≤ 6 then some (marks.length, rest) else none
    | _ => none

/-- **Read a directive line.**  Any line that is not one gives none, in particular one whose target
is no Markdown document of the wiki. -/
def read? (line : Text) : Option Directive := do
  let (level, rest) ← headingMark? line
  let rest ← Text.strip? (lit "[+") (Text.trimStart rest)
  let (body, target) ← splitLabel? rest
  let path ← linkPath? target
  let target ← documentPath? path
  return ⟨line, target, level, (body.map Bindings.read).getD []⟩

end Directive

end WikiPress.Snippet
