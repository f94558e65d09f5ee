import WikiPress.Html.Body

/-!
# Html/Table — reading tables, templates and framesets

Inside a table every tag has its place: a cell opens the row and the section that it lacks, and ends
the cell before it.  What does not belong into a table is put before it.
-/

namespace WikiPress.Html.Builder

/-- The table element with a name. -/
def part (name : String) : Text := lit name

/-- Read a token as content of the page, which goes before the table. -/
def fosterStep (t : Token) (b : Builder) : Step :=
  match { b with foster := true }.inBodyStep t with
  | .done b => .done { b with foster := false }
  | .again b => .again { b with foster := false }

/-- A token directly in a table. -/
def inTableStep (t : Token) (b : Builder) : Step :=
  let context := b.clearTo [.table]
  match t with
  | .text _ | .null =>
    if b.currentIs [.table, .tableSection, .row, .template] then
      .again { b with tableText := [], returnMode := b.mode, mode := .inTableText }
    else b.fosterStep t
  | .comment s => .done (b.insertComment s)
  | .doctype _ => .done b
  | .opening tag =>
    match Role.ofName tag.name with
    | .caption => .done { context.markFormatting.insert tag with mode := .inCaption }
    | .columnGroup => .done { context.insert tag with mode := .inColumnGroup }
    | .column => .again { context.insertNamed (part "colgroup") with mode := .inColumnGroup }
    | .tableSection => .done { context.insert tag with mode := .inTableBody }
    | .cell | .row => .again { context.insertNamed (part "tbody") with mode := .inTableBody }
    | .table =>
      if b.hasInScope .table (part "table") then .again (b.popNamed (part "table")).resetMode
      else .done b
    | .style | .script | .template => .done ((b.openInHead? tag).getD b)
    | .input => if isHiddenInput tag then .done (b.insertVoid tag) else b.fosterStep t
    | .form =>
      if b.form.isSome || b.inTemplate then .done b
      else
        let b := b.insert tag
        .done { b with form := b.current? }.pop
    | _ => b.fosterStep t
  | .closing tag =>
    match Role.ofName tag.name with
    | .table =>
      .done (if b.hasInScope .table (part "table") then (b.popNamed (part "table")).resetMode else b)
    | .body | .caption | .column | .columnGroup | .html | .tableSection | .cell | .row => .done b
    | .template => .done b.closeTemplate
    | _ => b.fosterStep t
  | .eof => b.inBodyStep t

/-- A token in text directly in a table: white space stays, other text goes before the table. -/
def inTableTextStep (t : Token) (b : Builder) : Step :=
  match t with
  | .text s => .done { b with tableText := b.tableText ++ s }
  | .null => .done b
  | _ =>
    let text := b.tableText
    let b := { b with tableText := [] }
    let b :=
      if isWhite text then b.insertText text
      else { { b with foster := true }.textInBody text with foster := false }
    .again { b with mode := b.returnMode }

/-- End the caption, if it is open. -/
def closeCaption? (b : Builder) : Option Builder :=
  if b.hasInScope .table (part "caption") then
    some { (b.closeNamed (part "caption")).clearFormatting with mode := .inTable }
  else none

/-- A token in the caption of a table. -/
def inCaptionStep (t : Token) (b : Builder) : Step :=
  match t with
  | .opening tag =>
    match Role.ofName tag.name with
    | .caption | .column | .columnGroup | .tableSection | .cell | .row =>
      b.closeCaption?.elim (.done b) .again
    | _ => b.inBodyStep t
  | .closing tag =>
    match Role.ofName tag.name with
    | .caption => .done (b.closeCaption?.getD b)
    | .table => b.closeCaption?.elim (.done b) .again
    | .body | .column | .columnGroup | .html | .tableSection | .cell | .row => .done b
    | _ => b.inBodyStep t
  | _ => b.inBodyStep t

/-- A token among the columns of a table. -/
def inColumnGroupStep (t : Token) (b : Builder) : Step :=
  let leave :=
    if b.currentIs [.columnGroup] then .again { b.pop with mode := Mode.inTable } else Step.done b
  match t with
  | .text s => if isWhite s then .done (b.insertText s) else leave
  | .comment s => .done (b.insertComment s)
  | .doctype _ => .done b
  | .opening tag =>
    match Role.ofName tag.name with
    | .html => .done (b.mergeHtml tag)
    | .column => .done (b.insertVoid tag)
    | .template => .done (b.openTemplate tag)
    | _ => leave
  | .closing tag =>
    match Role.ofName tag.name with
    | .columnGroup =>
      .done (if b.currentIs [.columnGroup] then { b.pop with mode := .inTable } else b)
    | .column => .done b
    | .template => .done b.closeTemplate
    | _ => leave
  | .eof => b.inBodyStep t
  | .null => leave

/-- A token in a section of a table. -/
def inTableBodyStep (t : Token) (b : Builder) : Step :=
  let context := b.clearTo [.tableSection]
  let leave := { context.pop with mode := Mode.inTable }
  let inSection := b.inScope .table (Role.ofName · == .tableSection)
  match t with
  | .opening tag =>
    match Role.ofName tag.name with
    | .row => .done { context.insert tag with mode := .inRow }
    | .cell => .again { context.insertNamed (part "tr") with mode := .inRow }
    | .caption | .column | .columnGroup | .tableSection =>
      if inSection then .again leave else .done b
    | _ => b.inTableStep t
  | .closing tag =>
    match Role.ofName tag.name with
    | .tableSection => .done (if b.hasInScope .table tag.name then leave else b)
    | .table => if inSection then .again leave else .done b
    | .body | .caption | .column | .columnGroup | .html | .cell | .row => .done b
    | _ => b.inTableStep t
  | _ => b.inTableStep t

/-- A token in a row of a table. -/
def inRowStep (t : Token) (b : Builder) : Step :=
  let context := b.clearTo [.row]
  let leave := { context.pop with mode := Mode.inTableBody }
  let inRow := b.hasInScope .table (part "tr")
  match t with
  | .opening tag =>
    match Role.ofName tag.name with
    | .cell => .done { context.insert tag with mode := .inCell }.markFormatting
    | .caption | .column | .columnGroup | .tableSection | .row =>
      if inRow then .again leave else .done b
    | _ => b.inTableStep t
  | .closing tag =>
    match Role.ofName tag.name with
    | .row => .done (if inRow then leave else b)
    | .table => if inRow then .again leave else .done b
    | .tableSection =>
      if b.hasInScope .table tag.name && inRow then .again leave else .done b
    | .body | .caption | .column | .columnGroup | .html | .cell => .done b
    | _ => b.inTableStep t
  | _ => b.inTableStep t

/-- End the cell that is open. -/
def closeCell (b : Builder) : Builder :=
  let b := b.impliedEnds []
  let b := b.popThrough fun id => (b.element id).1 == .html && b.role id == .cell
  { b.clearFormatting with mode := .inRow }

/-- A token in a cell of a table. -/
def inCellStep (t : Token) (b : Builder) : Step :=
  match t with
  | .opening tag =>
    match Role.ofName tag.name with
    | .caption | .column | .columnGroup | .tableSection | .cell | .row =>
      if b.inScope .table (Role.ofName · == .cell) then .again b.closeCell else .done b
    | _ => b.inBodyStep t
  | .closing tag =>
    match Role.ofName tag.name with
    | .cell =>
      .done (if b.hasInScope .table tag.name then
        { (b.closeNamed tag.name).clearFormatting with mode := .inRow } else b)
    | .body | .caption | .column | .columnGroup | .html => .done b
    | .table | .tableSection | .row =>
      if b.hasInScope .table tag.name then .again b.closeCell else .done b
    | _ => b.inBodyStep t
  | _ => b.inBodyStep t

/-- Read the content of a template in another mode from here on. -/
def templateMode (mode : Mode) (b : Builder) : Step :=
  .again { b with templateModes := mode :: b.templateModes.drop 1, mode := mode }

/-- A token in a template. -/
def inTemplateStep (t : Token) (b : Builder) : Step :=
  match t with
  | .opening tag =>
    match Role.ofName tag.name with
    | .metadata | .noframes | .script | .style | .template | .title =>
      .done ((b.openInHead? tag).getD b)
    | .caption | .columnGroup | .tableSection => b.templateMode .inTable
    | .column => b.templateMode .inColumnGroup
    | .row => b.templateMode .inTableBody
    | .cell => b.templateMode .inRow
    | _ => b.templateMode .inBody
  | .closing tag => .done (if tag.name == lit "template" then b.closeTemplate else b)
  | .eof => b.endTemplate
  | _ => b.inBodyStep t

/-- The white space of a text. -/
def whiteOnly (t : Text) : Text := t.filter Source.isSpace

/-- A token in a frameset, or after it. -/
def inFramesetStep (ended : Bool) (t : Token) (b : Builder) : Step :=
  match t with
  | .text s => .done (b.insertText (whiteOnly s))
  | .comment s => .done (b.insertComment s)
  | .opening tag =>
    match Role.ofName tag.name with
    | .html => .done (b.mergeHtml tag)
    | .noframes => .done ((b.openInHead? tag).getD b)
    | .frameset => .done (if ended then b else b.insert tag)
    | .frame => .done (if ended then b else b.insertVoid tag)
    | _ => .done b
  | .closing tag =>
    if ended then .done (if tag.name == lit "html" then { b with mode := .afterAfterFrameset } else b)
    else if tag.name == lit "frameset" && 1 < b.opened.length then
      let b := b.pop
      .done (if b.currentIs [.frameset] then b else { b with mode := .afterFrameset })
    else .done b
  | _ => .done b

/-- A token after the body. -/
def afterBodyStep (t : Token) (b : Builder) : Step :=
  let back := Step.again { b with mode := .inBody }
  match t with
  | .text s => if isWhite s then .done (b.textInBody s) else back
  | .comment s => .done (b.insertCommentIn (b.opened.getLast?.getD 0) s)
  | .doctype _ => .done b
  | .opening tag => if tag.name == lit "html" then .done (b.mergeHtml tag) else back
  | .closing tag => if tag.name == lit "html" then .done { b with mode := .afterAfterBody } else back
  | .eof => .done b
  | .null => back

/-- A token after the page. -/
def afterPageStep (t : Token) (b : Builder) : Step :=
  let back := Step.again { b with mode := .inBody }
  match t with
  | .text s => if isWhite s then .done (b.textInBody s) else back
  | .comment s => .done (b.insertCommentIn 0 s)
  | .doctype _ => .done b
  | .opening tag => if tag.name == lit "html" then .done (b.mergeHtml tag) else back
  | .eof => .done b
  | _ => back

/-- A token after a page of frames. -/
def afterFramesStep (t : Token) (b : Builder) : Step :=
  match t with
  | .text s => .done (b.textInBody (whiteOnly s))
  | .comment s => .done (b.insertCommentIn 0 s)
  | .opening tag =>
    match Role.ofName tag.name with
    | .html => .done (b.mergeHtml tag)
    | .noframes => .done ((b.openInHead? tag).getD b)
    | _ => .done b
  | _ => .done b

end WikiPress.Html.Builder
