import WikiPress.Page.Links

/-!
# Page/Heading — the headings of a page

The headings that stand directly in a page are numbered by level and get an id, a badge that shows
the level and an icon that links to them.  A heading whose text begins with a plus sign can be folded.
-/

namespace WikiPress.Page

open Html

/-- A heading of a page. -/
structure Heading where
  level : Nat
  id : Text
  text : Text
  foldable : Bool
deriving DecidableEq, Repr

/-- How many headings of each level there are: levels and counts. -/
abbrev HeadingCounts := List (Nat × Nat)

/-- The number of headings of a level. -/
def HeadingCounts.count (level : Nat) (counts : HeadingCounts) : Nat := (counts.lookup level).getD 0

/-- Count a heading of a level. -/
def HeadingCounts.add (level : Nat) : HeadingCounts → HeadingCounts
  | [] => [(level, 1)]
  | (other, n) :: rest =>
    if other == level then (other, n + 1) :: rest else (other, n) :: HeadingCounts.add level rest

/-- The id of the heading of a level with a number. -/
def headingId (level number : Nat) : Text := 'h' :: Text.ofNat level ++ '-' :: Text.ofNat number

/-- The level of an element from `h1` to `h6`. -/
def headingLevel? (node : Node) : Option Nat :=
  match node with
  | .element _ ['h', c] _ _ =>
    if '1' ≤ c && c ≤ '6' then some (Text.digitValue c) else none
  | _ => none

/-- The text after the plus sign of a heading that can be folded. -/
def foldText? (t : Text) : Option Text :=
  match t with
  | '+' :: c :: rest => if Text.isBlank c then some (Text.trimStart rest) else none
  | _ => none

/-- The badge of a heading. -/
def badge (level : Nat) : Node :=
  .element .html (lit "span") [⟨classKey, lit "heading-tag"⟩]
    [.text ['H'], .element .html (lit "small") [] [.text (Text.ofNat level)]]

/-- The icon that links to a heading. -/
def anchor : Node :=
  .element .html (lit "span") [⟨classKey, lit "heading-link"⟩]
    [icon "icon-link" ("M10 13a5 5 0 0 0 7.07 0l3-3a5 5 0 0 0-7.07-7.07l-1.5 1.5M14 11a5 5 0 0 0-7.07 "
      ++ "0l-3 3a5 5 0 0 0 7.07 7.07l1.5-1.5")]

/-- The content of a heading without the plus sign, and whether there was one. -/
def takeFold (children : List Node) : List Node × Bool :=
  match children with
  | .text t :: rest =>
    match foldText? t with
    | some t => (.text t :: rest, true)
    | none => (children, false)
  | _ => (children, false)

/-- A heading with its number among those of its level. -/
def decorateHeading (level number : Nat) (node : Node) : Node × Heading :=
  let (children, foldable) := takeFold node.children
  let id := headingId level number
  let text := Text.trim (Node.innerTexts children)
  let attributes := Attribute.set (lit "id") id node.attributes
  let attributes := if foldable then addClass (lit "fold") attributes else attributes
  let content := badge level :: children ++ [anchor]
  (match node with
    | .element space name _ _ => .element space name attributes content
    | node => node, ⟨level, id, text, foldable⟩)

/-- **The nodes of a page with its headings decorated**, those headings, and the counts afterwards. -/
def decorateHeadings : List Node → HeadingCounts → List Node × List Heading × HeadingCounts
  | [], counts => ([], [], counts)
  | node :: rest, counts =>
    match headingLevel? node with
    | none =>
      let (nodes, headings, counts) := decorateHeadings rest counts
      (node :: nodes, headings, counts)
    | some level =>
      let counts := HeadingCounts.add level counts
      let (node, heading) := decorateHeading level (HeadingCounts.count level counts) node
      let (nodes, headings, counts) := decorateHeadings rest counts
      (node :: nodes, heading :: headings, counts)

end WikiPress.Page
