import WikiPress.Text.Split

/-!
# Snippet/Template — placeholders and scripts inside a snippet, and what fills them

A placeholder is written `⟦name⟧` or `⟦name|default⟧` with double braces; a script stands between
double dollars.  Both are found from left to right and never overlap.  A template is the text as
plain parts and holes, so that the parts joined give the text back.
-/

namespace WikiPress.Snippet

/-!
## The parameters of a directive

A parameter body is cut at its bars.  Every piece is bound to its position, counted from one, and a
piece `name=value` binds its value to the name as well.  A later binding of the same key replaces
the earlier one.
-/

/-- Parameter bindings: keys with their values, each key once. -/
abbrev Bindings := List (Text × Text)

namespace Bindings

/-- Bind a key, in place of its earlier binding if there is one. -/
def insert (key value : Text) : Bindings → Bindings
  | [] => [(key, value)]
  | (k, v) :: rest =>
    if k == key then (key, value) :: rest else (k, v) :: insert key value rest

/-- The value bound to a key. -/
def get? (key : Text) (bindings : Bindings) : Option Text := bindings.lookup key

/-- Bind one piece of a parameter body, the `position`-th. -/
def insertPiece (bindings : Bindings) (position : Nat) (piece : Text) : Bindings :=
  match Text.chop ['='] true false (Text.trim piece) with
  | (key, some value) =>
    let bindings := if key.isEmpty then bindings else bindings.insert key value
    bindings.insert (Text.ofNat position) value
  | (value, none) => bindings.insert (Text.ofNat position) value

/-- Bind pieces in order, the first under `position`. -/
def insertPieces (bindings : Bindings) : (position : Nat) → List Text → Bindings
  | _, [] => bindings
  | position, piece :: rest => insertPieces (bindings.insertPiece position piece) (position + 1) rest

/-- **The bindings of a parameter body** `name=value|positional|…`. -/
def read (body : Text) : Bindings := insertPieces [] 1 (Text.splitOn '|' body)

end Bindings

/-! ## Placeholders and scripts -/

/-- A named hole of a snippet. -/
structure Placeholder where
  /-- The key that fills the hole. -/
  name : Text
  /-- The value when nothing is bound to the key. -/
  default : Option Text
deriving DecidableEq, Repr

namespace Placeholder

/-- Read the text between the braces of a placeholder. -/
def read (inner : Text) : Placeholder :=
  let (name, default) := Text.chop ['|'] true false inner
  ⟨name, default⟩

/-- The value of a placeholder: what is bound to its name, else its default, else `undefined`.  The
two characters `\n` stand for a newline. -/
def value (p : Placeholder) (bindings : Bindings) : Text :=
  match (bindings.get? p.name).or p.default with
  | some value => Text.replaceAll ['\\', 'n'] ['\n'] value
  | none => lit "undefined"

end Placeholder

/-- A part of a template. -/
inductive Part
  /-- Text that stands for itself. -/
  | plain (text : Text)
  /-- The text between the delimiters of a hole. -/
  | hole (inner : Text)
deriving DecidableEq, Repr

/-- The braces that open a placeholder. -/
def openBraces : Text := ['{', '{']

/-- The braces that close a placeholder. -/
def closeBraces : Text := ['}', '}']

/-- The delimiter on both sides of a script. -/
def dollars : Text := ['$', '$']

/-- The parts of a text with placeholders, found within `fuel` steps.  A pair of braces whose inner
text is empty or holds a newline opens no placeholder. -/
def placeholderPartsWithin : (fuel : Nat) → Text → List Part
  | 0, t => [.plain t]
  | fuel + 1, t =>
    match Text.cut? openBraces t with
    | none => [.plain t]
    | some (before, inside) =>
      match Text.cut? closeBraces inside with
      | none => [.plain t]
      | some (inner, after) =>
        if inner.isEmpty || List.elem '\n' inner then
          .plain (before ++ openBraces) :: placeholderPartsWithin fuel inside
        else .plain before :: .hole inner :: placeholderPartsWithin fuel after

/-- **The parts of a text with placeholders.** -/
def placeholderParts (t : Text) : List Part := placeholderPartsWithin t.length t

/-- The parts of a text with scripts, found within `fuel` steps. -/
def scriptPartsWithin : (fuel : Nat) → Text → List Part
  | 0, t => [.plain t]
  | fuel + 1, t =>
    match Text.cut? dollars t with
    | none => [.plain t]
    | some (before, inside) =>
      match Text.cut? dollars inside with
      | none => [.plain t]
      | some (source, after) => .plain before :: .hole source :: scriptPartsWithin fuel after

/-- **The parts of a text with scripts.** -/
def scriptParts (t : Text) : List Part := scriptPartsWithin t.length t

/-- The byte ranges of the holes, delimiters of two bytes included, with their inner texts; the
first part begins at `start`. -/
def holeRanges : (start : Nat) → List Part → List (Nat × Nat × Text)
  | _, [] => []
  | start, .plain t :: rest => holeRanges (start + Text.byteLength t) rest
  | start, .hole inner :: rest =>
    let stop := start + Text.byteLength inner + 4
    (start, stop, inner) :: holeRanges stop rest

/-- A part with its hole filled. -/
def Part.fill (value : Text → Text) : Part → Text
  | .plain t => t
  | .hole inner => value inner

/-- **A text with every placeholder replaced by its value.**  Inserted values are not read again. -/
def substitute (bindings : Bindings) (t : Text) : Text :=
  (placeholderParts t).flatMap (Part.fill fun inner => (Placeholder.read inner).value bindings)

end WikiPress.Snippet
