import WikiPress.Document.Basic
import WikiPress.Marks
import WikiPress.Script.Engine
import WikiPress.Snippet.Demote
import WikiPress.Snippet.Directive
import WikiPress.Snippet.Template

/-!
# Snippet/Transclusion — replacing directives by the documents they name

A text is scanned for directive lines.  The documents they name are fetched once each, their scripts
evaluated and their placeholders filled; a slice may be chosen, and the headings are moved down.
What results is transcluded in turn, where no document that was entered on the way may be entered
again.  The effects of fetching and choosing belong to a host with a state of its own.
-/

namespace WikiPress.Snippet

/-- The documents entered on the way to a text, in order and without repetition. -/
structure Visited where
  /-- The paths in the order of entry. -/
  toList : List Text
  nodup : toList.Nodup
deriving DecidableEq, Repr

namespace Visited

/-- Nothing entered. -/
def empty : Visited := ⟨[], List.nodup_nil⟩

/-- Enter a path, at the end unless it is there. -/
def insert (path : Text) (v : Visited) : Visited :=
  if h : path ∈ v.toList then v
  else
    ⟨v.toList ++ [path], by
      rw [List.nodup_append]
      refine ⟨v.nodup, by simp, ?_⟩
      intro a ha b hb
      simp only [List.mem_singleton] at hb
      subst hb
      exact fun e => h (e ▸ ha)⟩

/-- Whether a path was entered. -/
def contains (path : Text) (v : Visited) : Bool := v.toList.contains path

/-- Enter paths in order. -/
def insertAll (paths : List Text) (v : Visited) : Visited :=
  paths.foldl (fun v path => v.insert path) v

/-- The paths of a list, in order of first occurrence. -/
def ofList (paths : List Text) : Visited := empty.insertAll paths

/-- Whether two sets hold the same paths, in whatever order. -/
def sameAs (v w : Visited) : Bool :=
  v.toList.all w.contains && w.toList.all v.contains

end Visited

/-- What a transclusion relies on: where documents come from, what scripts evaluate to and who
chooses a slice at random.  Fetching and choosing may change the state `σ`. -/
structure Host (σ : Type) where
  /-- Fetch a document. -/
  fetch : Text → StateM σ Fetched
  /-- Evaluate a script. -/
  evaluate : Text → Script.Scope → Except Script.Fault Text
  /-- Choose one of so many slices. -/
  pick : Nat → StateM σ Nat

/-! ## The content of a document -/

/-- What shows a script that failed: its fault and its source. -/
def faultBlock (fault : Script.Fault) (source : Text) : Text :=
  lit "\n\n::: open .danger.readonly **" ++ fault.name ++ lit ": " ++ fault.message
    ++ lit "**\n```\n" ++ source ++ lit "\n```\n:::\n\n"

/-- What shows a document that could not be had. -/
def failureBlock (content : Text) : Text := lit "::: .danger.empty .\n" ++ content ++ lit "\n:::"

/-- The value of a script, or what shows its fault. -/
def runScript (evaluate : Text → Script.Scope → Except Script.Fault Text) (scope : Script.Scope)
    (source : Text) : Text :=
  match evaluate source scope with
  | .ok value => Text.trim value
  | .error fault => faultBlock fault source

/-- A text with its scripts evaluated, trimmed. -/
def runScripts (evaluate : Text → Script.Scope → Except Script.Fault Text) (path data : Text) :
    Text :=
  Text.trim ((scriptParts data).flatMap (Part.fill (runScript evaluate ⟨path, data⟩)))

/-- The content of a fetched document: its body with the scripts evaluated.  A message is treated
like a body without flag lines. -/
def content (evaluate : Text → Script.Scope → Except Script.Fault Text) (path : Text)
    (file : Fetched) : Text :=
  let data := if file.isError then file.data else Flags.strip file.data
  if data.isEmpty then data else runScripts evaluate path data

/-- The slice of a snippet that a clip parameter names: a number counts slices and is clamped, the
word `random` asks `pick`, and anything else means the first slice. -/
def clip {m : Type → Type} [Monad m] (pick : Nat → m Nat) (parameter snippet : Text) : m Text := do
  let slices := Text.splitText sliceMark snippet
  if slices.length ≤ 1 then return snippet
  let last := slices.length - 1
  let index ← match Text.leadingInt? parameter with
    | some n => pure n.toNat
    | none => if parameter == lit "random" then pick slices.length else pure 0
  return Text.trim (slices.getD (min index last) [])

/-- The snippet a directive takes from the content of its document. -/
def snippet {m : Type → Type} [Monad m] (pick : Nat → m Nat) (d : Directive) (data : Text) :
    m Text :=
  if data.isEmpty then pure data
  else
    let filled := Text.trim (substitute d.params data)
    match d.params.get? (lit "clip") with
    | some parameter => clip pick parameter filled
    | none => pure filled

/-- A snippet below the heading that a directive with a heading marker puts in front of it. -/
def underHeading (d : Directive) (snippet : Text) : Text :=
  if d.level > 1 then
    let heading := lit "# [](" ++ d.target ++ lit " \"#\")"
    demote (d.level - 1) (if snippet.isEmpty then heading else heading ++ lit "\n\n" ++ snippet)
  else snippet

/-! ## Scanning and expanding -/

/-- The directives of one target, each line once. -/
structure Group where
  target : Text
  directives : List Directive
deriving Repr

/-- Add a directive to the group of its target, unless its line is there; a new target comes
last. -/
def addDirective (d : Directive) : List Group → List Group
  | [] => [⟨d.target, [d]⟩]
  | g :: rest =>
    if g.target == d.target then
      (if g.directives.any (·.line == d.line) then g
        else { g with directives := g.directives ++ [d] }) :: rest
    else g :: addDirective d rest

/-- A scanned text: its lines, where those that name an entered document are emptied, and the
directives by target. -/
structure Scan where
  lines : List Text
  groups : List Group
deriving Repr

/-- Scan lines for directives. -/
def scanLines (visited : Visited) : List Text → List Group → Scan
  | [], groups => ⟨[], groups⟩
  | line :: rest, groups =>
    match Directive.read? line with
    | none =>
      let s := scanLines visited rest groups
      { s with lines := line :: s.lines }
    | some d =>
      if visited.contains d.target then
        let s := scanLines visited rest groups
        { s with lines := [] :: s.lines }
      else
        let s := scanLines visited rest (addDirective d groups)
        { s with lines := line :: s.lines }

/-- Scan a text for directives. -/
def scan (visited : Visited) (text : Text) : Scan := scanLines visited (Text.splitOn '\n' text) []

/-- Fetch the targets of the groups, each once, in order. -/
def fetchAll {σ : Type} (host : Host σ) : List Group → StateM σ (List (Group × Fetched))
  | [] => pure []
  | g :: rest => do
    let file ← host.fetch g.target
    return (g, file) :: (← fetchAll host rest)

/-- What stands in place of a directive; `failed` tells whether its document could not be had. -/
def shown (failed : Bool) (content : Text) : Text := if failed then failureBlock content else content

/-- The content of a directive's expansion: `inner` transcludes the text it is made of. -/
def expand {σ : Type} (host : Host σ) (inner : Text → StateM σ (Option Text)) (file : Fetched)
    (data : Text) (d : Directive) : StateM σ (Option Text) := do
  let snippet ← snippet host.pick d data
  let text := underHeading d snippet
  let expanded ← if snippet.isEmpty then pure (some text) else inner text
  return expanded.map (shown file.isError)

/-- The expansions of directives of one target, by line. -/
def expandLines {σ : Type} (host : Host σ) (inner : Text → StateM σ (Option Text))
    (file : Fetched) (data : Text) : List Directive → StateM σ (Option (List (Text × Text)))
  | [] => pure (some [])
  | d :: rest => do
    let first ← expand host inner file data d
    let others ← expandLines host inner file data rest
    return first.bind fun content => others.map ((d.line, content) :: ·)

/-- The expansions of all directives, by line. -/
def expandAll {σ : Type} (host : Host σ) (inner : Text → StateM σ (Option Text)) :
    List (Group × Fetched) → StateM σ (Option (List (Text × Text)))
  | [] => pure (some [])
  | (g, file) :: rest => do
    let data := content host.evaluate g.target file
    let first ← expandLines host inner file data g.directives
    let others ← expandAll host inner rest
    return first.bind fun lines => others.map (lines ++ ·)

/-- Lines with every line that has a replacement replaced. -/
def splice (replacements : List (Text × Text)) (lines : List Text) : List Text :=
  lines.map fun line => (replacements.lookup line).getD line

/-- **A text with every directive replaced by its expansion**, where documents are entered at most
`depth` deep; none when that is not deep enough.  A directive whose document was already entered on
the way becomes an empty line. -/
def transclude {σ : Type} (host : Host σ) : (depth : Nat) → Visited → Text →
    StateM σ (Option Text)
  | 0, _, _ => pure none
  | depth + 1, visited, text => do
    let s := scan visited text
    match s.groups with
    | [] => return some (Text.join ['\n'] s.lines)
    | groups =>
      let visited := visited.insertAll (groups.map Group.target)
      let files ← fetchAll host groups
      let replacements ← expandAll host (transclude host depth visited) files
      return replacements.map fun replacements =>
        Text.trim (Text.join ['\n'] (splice replacements s.lines))

end WikiPress.Snippet
