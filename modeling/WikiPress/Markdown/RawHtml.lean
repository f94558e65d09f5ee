import WikiPress.Markdown.Escape
import WikiPress.Text.Split

/-!
# Markdown/RawHtml — HTML written inside Markdown

Tags, comments, declarations and the like are kept as they are, inside a line and as blocks of lines.
A block of HTML is recognised by the beginning of its first line, which also decides where it ends.
-/

namespace WikiPress.Markdown.RawHtml

/-! ## Tags -/

/-- A character of a tag name after its first letter. -/
def isNameChar (c : Char) : Bool := Text.isLetter c || Text.isDigit c || c == '-'

/-- The tag name a text begins with, with what follows it. -/
def tagName? (t : Text) : Option (Text × Text) :=
  match t with
  | c :: _ => if Text.isLetter c then some (t.takeWhile isNameChar, t.dropWhile isNameChar) else none
  | [] => none

/-- The first character of an attribute name. -/
def isKeyStart (c : Char) : Bool := Text.isLetter c || c == '_' || c == ':'

/-- A further character of an attribute name. -/
def isKeyChar (c : Char) : Bool :=
  isKeyStart c || Text.isDigit c || c == '.' || c == '-'

/-- A character of an attribute value without quotes. -/
def isBareChar (c : Char) : Bool :=
  !(isSpace c || c == '"' || c == '\'' || c == '=' || c == '<' || c == '>' || c == '`')

/-- What follows the attribute value a text begins with. -/
def afterValue? (t : Text) : Option Text :=
  match t with
  | c :: r =>
    if c == '"' || c == '\'' then
      match r.dropWhile (· != c) with
      | _ :: rest => some rest
      | [] => none
    else if isBareChar c then some (r.dropWhile isBareChar)
    else none
  | [] => none

/-- What follows the equals sign and the value after an attribute name, if there are any. -/
def afterAssignment (t : Text) : Text :=
  match t.dropWhile isSpace with
  | '=' :: r => (afterValue? (r.dropWhile isSpace)).getD t
  | _ => t

/-- What follows the white space and the attribute a text begins with. -/
def afterAttribute? (t : Text) : Option Text :=
  match t with
  | s :: r =>
    if isSpace s then
      match r.dropWhile isSpace with
      | c :: rest => if isKeyStart c then some (afterAssignment (rest.dropWhile isKeyChar)) else none
      | [] => none
    else none
  | [] => none

/-- What follows the attributes a text begins with, of which there are at most `fuel`. -/
def afterAttributes : (fuel : Nat) → Text → Text
  | 0, t => t
  | fuel + 1, t =>
    match afterAttribute? t with
    | some rest => afterAttributes fuel rest
    | none => t

/-- What follows the opening tag whose `<` has been read. -/
def afterOpeningTag? (t : Text) : Option Text :=
  match tagName? t with
  | none => none
  | some (_, r) =>
    match (afterAttributes r.length r).dropWhile isSpace with
    | '/' :: '>' :: rest => some rest
    | '>' :: rest => some rest
    | _ => none

/-- What follows the closing tag whose `<` has been read. -/
def afterClosingTag? (t : Text) : Option Text :=
  match t with
  | '/' :: r =>
    match tagName? r with
    | some (_, r) =>
      match r.dropWhile isSpace with
      | '>' :: rest => some rest
      | _ => none
    | none => none
  | _ => none

/-- What follows the tag whose `<` has been read. -/
def afterTag? (t : Text) : Option Text :=
  match afterClosingTag? t with
  | some rest => some rest
  | none => afterOpeningTag? t

/-! ## Raw HTML inside a line -/

/-- What follows the first occurrence of `mark`. -/
def afterMark? (mark t : Text) : Option Text := (Text.cut? mark t).map Prod.snd

/-- **What follows the raw HTML** whose `<` has been read: a tag, a comment, an instruction, a
declaration or a section of character data. -/
def rest? (t : Text) : Option Text :=
  match t with
  | '!' :: '-' :: '-' :: '>' :: rest => some rest
  | '!' :: '-' :: '-' :: '-' :: '>' :: rest => some rest
  | '!' :: '-' :: '-' :: r => afterMark? (lit "-->") r
  | '!' :: '[' :: r => (Text.strip? (lit "CDATA[") r).bind (afterMark? (lit "]]>"))
  | '!' :: c :: r => if Text.isLetter c then afterMark? ['>'] r else none
  | '?' :: r => afterMark? (lit "?>") r
  | _ => afterTag? t

/-! ## Blocks of HTML -/

/-- Where a block of HTML ends. -/
inductive Ending
  /-- With the line that closes an element for raw text. -/
  | closingTag
  /-- With the line that holds a mark. -/
  | mark (closing : Text)
  /-- Before a blank line. -/
  | blankLine
deriving DecidableEq, Repr

/-- The elements for raw text. -/
def rawElements : List Text := [lit "script", lit "pre", lit "textarea", lit "style"]

/-- The elements that begin a block wherever they begin a line. -/
def blockElements : List Text :=
  [lit "address", lit "article", lit "aside", lit "base", lit "basefont", lit "blockquote",
   lit "body", lit "caption", lit "center", lit "col", lit "colgroup", lit "dd", lit "details",
   lit "dialog", lit "dir", lit "div", lit "dl", lit "dt", lit "fieldset", lit "figcaption",
   lit "figure", lit "footer", lit "form", lit "frame", lit "frameset", lit "h1", lit "h2", lit "h3",
   lit "h4", lit "h5", lit "h6", lit "head", lit "header", lit "hr", lit "html", lit "iframe",
   lit "legend", lit "li", lit "link", lit "main", lit "menu", lit "menuitem", lit "nav",
   lit "noframes", lit "ol", lit "optgroup", lit "option", lit "p", lit "param", lit "search",
   lit "section", lit "summary", lit "table", lit "tbody", lit "td", lit "tfoot", lit "th",
   lit "thead", lit "title", lit "tr", lit "track", lit "ul"]

/-- Whether the rest of a line begins with white space, or there is none. -/
def beginsSpaced (t : Text) : Bool :=
  match t with
  | c :: _ => isSpace c
  | [] => true

/-- The ending of the block that an element begins whatever the lines around it. -/
def elementEnding? (t : Text) : Option Ending :=
  let (slash, r) := match t with
    | '/' :: r => (true, r)
    | _ => (false, t)
  let name := (r.takeWhile isNameChar).map Text.lowerLetter
  let rest := r.dropWhile isNameChar
  if !slash && rawElements.contains name
      && (beginsSpaced rest || Text.beginsWith ['>'] rest) then some .closingTag
  else if blockElements.contains name
      && (beginsSpaced rest || Text.beginsWith ['>'] rest || Text.beginsWith (lit "/>") rest) then
    some .blankLine
  else none

/-- **The ending of the block of HTML that a line begins.**  A line that is nothing but a tag begins
one unless it continues a paragraph. -/
def ending? (inParagraph : Bool) (line : Text) : Option Ending :=
  match line with
  | '<' :: t =>
    match t with
    | '!' :: '-' :: '-' :: _ => some (.mark (lit "-->"))
    | '?' :: _ => some (.mark (lit "?>"))
    | '!' :: c :: r =>
      if Text.isLetter c then some (.mark ['>'])
      else if c == '[' && Text.beginsWith (lit "CDATA[") r then some (.mark (lit "]]>"))
      else none
    | _ =>
      match elementEnding? t with
      | some ending => some ending
      | none =>
        match (if inParagraph then none else afterTag? t) with
        | some rest => if rest.all isSpace then some .blankLine else none
        | none => none
  | _ => none

/-- Whether a line holds a closing tag of an element for raw text. -/
def closesRawElement : Text → Bool
  | [] => false
  | c :: t =>
    (c == '<' && rawElements.any fun name =>
      (Text.stripLetters? ('/' :: name ++ ['>']) t).isSome) || closesRawElement t

/-- Whether a line is the last one of a block. -/
def Ending.metBy (ending : Ending) (line : Text) : Bool :=
  match ending with
  | .closingTag => closesRawElement line
  | .mark closing => Text.contains closing line
  | .blankLine => false

end WikiPress.Markdown.RawHtml
