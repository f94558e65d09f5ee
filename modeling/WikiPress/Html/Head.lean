import WikiPress.Html.Formatting

/-!
# Html/Head — reading what stands before the content of a page

The elements around the content need no tags: what comes first opens those that are missing.  Rules
answer with a step, which tells whether the token has been used up or is to be read again in the mode
that the builder is in then.
-/

namespace WikiPress.Html

/-- The answer of a rule to a token. -/
inductive Step
  /-- The token has been used up. -/
  | done (b : Builder)
  /-- The token is read again. -/
  | again (b : Builder)

namespace Builder

/-- Whether a text is white space. -/
def isWhite (t : Text) : Bool := t.all Source.isSpace

/-- A further opening tag of the page: it adds its attributes, outside of templates. -/
def mergeHtml (tag : Tag) (b : Builder) : Builder :=
  if b.inTemplate then b
  else
    match b.opened.getLast? with
    | some id => b.addAttributes id tag.attributes
    | none => b

/-- Begin a template. -/
def openTemplate (tag : Tag) (b : Builder) : Builder :=
  let b := (b.insert tag).markFormatting.noFrameset
  { b with mode := .inTemplate, templateModes := .inTemplate :: b.templateModes }

/-- End the innermost template. -/
def closeTemplate (b : Builder) : Builder :=
  if b.inTemplate then
    let b := (b.allImpliedEnds.popNamed (lit "template")).clearFormatting
    { b with templateModes := b.templateModes.drop 1 }.resetMode
  else b

/-- The opening tag of an element that may stand in the head; none for another one. -/
def openInHead? (tag : Tag) (b : Builder) : Option Builder :=
  match Role.ofName tag.name with
  | .metadata => some (b.insertVoid tag)
  | .title => some (b.insertRaw (.escapable tag.name) tag)
  | .style | .noframes | .noscript => some (b.insertRaw (.raw tag.name) tag)
  | .script => some (b.insertRaw .script tag)
  | .template => some (b.openTemplate tag)
  | _ => none

/-- Whether a closing tag is heard before the content begins. -/
def closesEarly (name : Text) : Bool :=
  match Role.ofName name with
  | .head | .body | .html => true
  | _ => name == lit "br"

/-- A token before everything else. -/
def initialStep (t : Token) (b : Builder) : Step :=
  match t with
  | .text s => if isWhite s then .done b else .again { b with quirks := true, mode := .beforeHtml }
  | .comment s => .done (b.insertCommentIn 0 s)
  | .doctype d =>
    let id := b.forest.nextId
    let b := (b.create (.doctype d.name)).put (.inside 0) id
    .done { b with quirks := d.faulty || d.name != lit "html", mode := .beforeHtml }
  | _ => .again { b with quirks := true, mode := .beforeHtml }

/-- Open the page. -/
def openPage (attributes : List Attribute) (b : Builder) : Builder :=
  let id := b.forest.nextId
  let b := (b.create (.element .html (lit "html") attributes)).put (.inside 0) id
  { b with opened := [id], mode := .beforeHead }

/-- A token before the page is open. -/
def beforeHtmlStep (t : Token) (b : Builder) : Step :=
  match t with
  | .doctype _ => .done b
  | .comment s => .done (b.insertCommentIn 0 s)
  | .text s => if isWhite s then .done b else .again (b.openPage [])
  | .opening tag =>
    if tag.name == lit "html" then .done (b.openPage tag.attributes) else .again (b.openPage [])
  | .closing tag => if closesEarly tag.name then .again (b.openPage []) else .done b
  | _ => .again (b.openPage [])

/-- Open the head. -/
def openHead (attributes : List Attribute) (b : Builder) : Builder :=
  let b := b.insertElement .html (lit "head") attributes
  { b with head := b.current?, mode := .inHead }

/-- A token before the head is open. -/
def beforeHeadStep (t : Token) (b : Builder) : Step :=
  match t with
  | .doctype _ => .done b
  | .comment s => .done (b.insertComment s)
  | .text s => if isWhite s then .done b else .again (b.openHead [])
  | .opening tag =>
    if tag.name == lit "html" then .done (b.mergeHtml tag)
    else if tag.name == lit "head" then .done (b.openHead tag.attributes)
    else .again (b.openHead [])
  | .closing tag => if closesEarly tag.name then .again (b.openHead []) else .done b
  | _ => .again (b.openHead [])

/-- A token in the head. -/
def inHeadStep (t : Token) (b : Builder) : Step :=
  let leave := { b.pop with mode := Mode.afterHead }
  match t with
  | .doctype _ => .done b
  | .comment s => .done (b.insertComment s)
  | .text s => if isWhite s then .done (b.insertText s) else .again leave
  | .opening tag =>
    if tag.name == lit "html" then .done (b.mergeHtml tag)
    else if tag.name == lit "head" then .done b
    else
      match b.openInHead? tag with
      | some b => .done b
      | none => .again leave
  | .closing tag =>
    if tag.name == lit "head" then .done leave
    else if tag.name == lit "template" then .done b.closeTemplate
    else if closesEarly tag.name then .again leave
    else .done b
  | _ => .again leave

/-- Open the body. -/
def openBody (attributes : List Attribute) (b : Builder) : Builder :=
  { b.insertElement .html (lit "body") attributes with mode := .inBody }

/-- A token between the head and the body. -/
def afterHeadStep (t : Token) (b : Builder) : Step :=
  match t with
  | .doctype _ => .done b
  | .comment s => .done (b.insertComment s)
  | .text s => if isWhite s then .done (b.insertText s) else .again (b.openBody [])
  | .opening tag =>
    match Role.ofName tag.name, b.head with
    | .html, _ => .done (b.mergeHtml tag)
    | .body, _ => .done (b.openBody tag.attributes).noFrameset
    | .frameset, _ => .done { b.insert tag with mode := .inFrameset }
    | .head, _ => .done b
    | .noscript, _ => .again (b.openBody [])
    | _, some head =>
      match { b with opened := head :: b.opened }.openInHead? tag with
      | some b => .done { b with opened := b.opened.filter (· != head) }
      | none => .again (b.openBody [])
    | _, none => .again (b.openBody [])
  | .closing tag =>
    if tag.name == lit "template" then .done b.closeTemplate
    else if tag.name != lit "head" && closesEarly tag.name then .again (b.openBody [])
    else .done b
  | _ => .again (b.openBody [])

/-- A token in an element for raw text. -/
def rawTextStep (t : Token) (b : Builder) : Step :=
  let leave := { b.pop with mode := b.returnMode, content := ContentMode.markup }
  match t with
  | .text s => .done (b.insertText s)
  | .eof => .again leave
  | _ => .done leave

end Builder

end WikiPress.Html
