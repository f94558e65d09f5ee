import WikiPress.Html.Head

/-!
# Html/Body — reading the content of a page

An opening tag ends what cannot hold its element, restores the formatting, and opens the element.  A
closing tag ends the element that it names with those inside, if it is in scope.
-/

namespace WikiPress.Html.Builder

/-- End the items or details that a further one takes the place of; the search stops at a part of the
structure of the page that is no mere container. -/
def closeItem (alike : Role) (b : Builder) : Builder :=
  go b.opened
where
  /-- The search along the open elements. -/
  go : List Nat → Builder
    | [] => b
    | id :: rest =>
      let (space, name) := b.element id
      if space == .html && b.role id == alike then (b.impliedEnds name).popNamed name
      else if b.isSpecial id
          && !(space == .html && [lit "address", lit "div", lit "p"].contains name) then b
      else go rest

/-- The attributes that a foreign element keeps in another letter case. -/
def foreignAttributes (space : Namespace) (attributes : List Attribute) : List Attribute :=
  attributes.map fun a => { a with name := adjusted a.name }
where
  /-- The attribute names of SVG that hold capital letters. -/
  mixed : List String :=
    ["attributeName", "attributeType", "baseFrequency", "baseProfile", "calcMode", "clipPathUnits",
     "diffuseConstant", "edgeMode", "filterUnits", "glyphRef", "gradientTransform", "gradientUnits",
     "kernelMatrix", "kernelUnitLength", "keyPoints", "keySplines", "keyTimes", "lengthAdjust",
     "limitingConeAngle", "markerHeight", "markerUnits", "markerWidth", "maskContentUnits",
     "maskUnits", "numOctaves", "pathLength", "patternContentUnits", "patternTransform",
     "patternUnits", "pointsAtX", "pointsAtY", "pointsAtZ", "preserveAlpha", "preserveAspectRatio",
     "primitiveUnits", "refX", "refY", "repeatCount", "repeatDur", "requiredExtensions",
     "requiredFeatures", "specularConstant", "specularExponent", "spreadMethod", "startOffset",
     "stdDeviation", "stitchTiles", "surfaceScale", "systemLanguage", "tableValues", "targetX",
     "targetY", "textLength", "viewBox", "viewTarget", "xChannelSelector", "yChannelSelector",
     "zoomAndPan"]
  /-- An attribute name in the letter case of its language. -/
  adjusted (name : Text) : Text :=
    match space with
    | .html => name
    | .mathml => if name == lit "definitionurl" then lit "definitionURL" else name
    | .svg =>
      match mixed.find? fun other => (lit other).map Text.lowerLetter == name with
      | some other => lit other
      | none => name

/-- Insert an element of another language. -/
def insertForeign (space : Namespace) (tag : Tag) (b : Builder) : Builder :=
  let b := b.insertElement space tag.name (foreignAttributes space tag.attributes)
  if tag.selfClosing then b.pop else b

/-- Whether an input is hidden. -/
def isHiddenInput (tag : Tag) : Bool :=
  match Attribute.get? (lit "type") tag.attributes with
  | some value => Text.sameLetters value (lit "hidden")
  | none => false

/-- Insert an element after restoring the formatting. -/
def insertFormatted (tag : Tag) (b : Builder) : Builder := b.restoreFormatting.insert tag

/-- End a part of a selection before another one begins. -/
def closeOption (keep : Text) (b : Builder) : Builder :=
  if b.hasInScope .standard (lit "select") then b.impliedEnds keep
  else if b.currentIs [.option] then b.pop
  else b

/-- The link that is still open in the current scope ends. -/
def closeAnchor (b : Builder) : Builder :=
  match b.formattingNamed? (lit "a") with
  | none => b
  | some id =>
    let b := b.closeFormatting (lit "a")
    { b with
      opened := b.opened.filter (· != id)
      formatting := b.formatting.filter (· != some id) }

/-- A frameset takes the place of the body, if nothing has been shown yet. -/
def openFrameset (tag : Tag) (b : Builder) : Builder :=
  match b.opened.reverse with
  | html :: body :: _ =>
    if b.framesetOk && b.isNamed (lit "body") body then
      let b := { b with forest := b.forest.detach body, opened := [html] }
      { b.insert tag with mode := .inFrameset }
    else b
  | _ => b

/-- A further opening tag of the body: it adds its attributes. -/
def mergeBody (tag : Tag) (b : Builder) : Builder :=
  match b.opened.reverse with
  | _ :: body :: _ =>
    if b.isNamed (lit "body") body && !b.inTemplate then
      (b.addAttributes body tag.attributes).noFrameset
    else b
  | _ => b

/-- An opening tag in the content. -/
def openInBody (tag : Tag) (b : Builder) : Step :=
  let blockLevel := b.closeOpenParagraph
  match Role.ofName tag.name with
  | .html => .done (b.mergeHtml tag)
  | .body => .done (b.mergeBody tag)
  | .frameset => .done (b.openFrameset tag)
  | .metadata | .title | .style | .script | .noframes | .template | .noscript =>
    .done ((b.openInHead? tag).getD b)
  | .head | .frame | .caption | .columnGroup | .column | .tableSection | .row | .cell => .done b
  | .block | .paragraph => .done (blockLevel.insert tag)
  | .heading =>
    let b := if blockLevel.currentIs [.heading] then blockLevel.pop else blockLevel
    .done (b.insert tag)
  | .preformatted => .done { (blockLevel.insert tag).noFrameset with skipNewline := true }
  | .form =>
    if b.form.isSome && !b.inTemplate then .done b
    else
      let b := blockLevel.insert tag
      .done (if b.inTemplate then b else { b with form := b.current? })
  | .listItem => .done ((b.noFrameset.closeItem .listItem).closeOpenParagraph.insert tag)
  | .definition => .done ((b.noFrameset.closeItem .definition).closeOpenParagraph.insert tag)
  | .plaintext => .done { blockLevel.insert tag with content := .plain }
  | .button =>
    let b := if b.hasInScope .standard (lit "button") then b.closeNamed (lit "button") else b
    .done (b.insertFormatted tag).noFrameset
  | .anchor => .done (b.closeAnchor.insertFormatted tag).pushFormatting
  | .formatting => .done (b.insertFormatted tag).pushFormatting
  | .nobr =>
    let b := b.restoreFormatting
    let b :=
      if b.hasInScope .standard (lit "nobr") then (b.closeFormatting (lit "nobr")).restoreFormatting
      else b
    .done (b.insert tag).pushFormatting
  | .scoped => .done (b.insertFormatted tag).markFormatting.noFrameset
  | .table =>
    let b := if b.quirks then b else blockLevel
    .done { (b.insert tag).noFrameset with mode := .inTable }
  | .lineBreak => .done (b.insertFormatted tag).pop.noFrameset
  | .input =>
    let b :=
      if b.hasInScope .standard (lit "select") then b.popNamed (lit "select") else b
    let b := (b.insertFormatted tag).pop
    .done (if isHiddenInput tag then b else b.noFrameset)
  | .media => .done (b.insertVoid tag)
  | .rule =>
    let b :=
      if blockLevel.hasInScope .standard (lit "select") then blockLevel.impliedEnds []
      else blockLevel
    .done (b.insertVoid tag).noFrameset
  | .image => .done (b.insertFormatted { tag with name := lit "img" }).pop.noFrameset
  | .textarea =>
    let b := (b.insertRaw (.escapable tag.name) tag).noFrameset
    .done { b with skipNewline := true }
  | .xmp => .done (blockLevel.restoreFormatting.noFrameset.insertRaw (.raw tag.name) tag)
  | .iframe => .done (b.noFrameset.insertRaw (.raw tag.name) tag)
  | .noembed => .done (b.insertRaw (.raw tag.name) tag)
  | .select =>
    if b.hasInScope .standard (lit "select") then .done (b.popNamed (lit "select"))
    else .done (b.insertFormatted tag).noFrameset
  | .optionGroup => .done ((b.closeOption []).insertFormatted tag)
  | .option => .done ((b.closeOption (lit "optgroup")).insertFormatted tag)
  | .rubyBase =>
    .done ((if b.hasInScope .standard (lit "ruby") then b.impliedEnds [] else b).insert tag)
  | .rubyText =>
    .done ((if b.hasInScope .standard (lit "ruby") then b.impliedEnds (lit "rtc") else b).insert tag)
  | .math => .done (b.restoreFormatting.insertForeign .mathml tag)
  | .svg => .done (b.restoreFormatting.insertForeign .svg tag)
  | .ordinary => .done (b.insertFormatted tag)

/-- The closing tag of a form. -/
def closeForm (b : Builder) : Builder :=
  if b.inTemplate then
    if b.hasInScope .standard (lit "form") then b.closeNamed (lit "form") else b
  else
    let form := b.form
    let b := { b with form := none }
    match form with
    | none => b
    | some id =>
      if b.opened.contains id && b.hasInScope .standard (lit "form") then
        let b := b.impliedEnds []
        { b with opened := b.opened.filter (· != id) }
      else b

/-- A closing tag in the content. -/
def closeInBody (tag : Tag) (b : Builder) : Step :=
  let name := tag.name
  match Role.ofName name with
  | .template => .done b.closeTemplate
  | .body => .done (if b.hasInScope .standard (lit "body") then { b with mode := .afterBody } else b)
  | .html =>
    if b.hasInScope .standard (lit "body") then .again { b with mode := .afterBody } else .done b
  | .block | .button | .preformatted | .select =>
    .done (if b.hasInScope .standard name then b.closeNamed name else b)
  | .form => .done b.closeForm
  | .paragraph =>
    let b := if b.hasInScope .button name then b else b.insertNamed name
    .done b.closeParagraph
  | .listItem =>
    .done (if b.hasInScope .listItem name then (b.impliedEnds name).popNamed name else b)
  | .definition =>
    .done (if b.hasInScope .standard name then (b.impliedEnds name).popNamed name else b)
  | .heading =>
    if b.inScope .standard (Role.ofName · == .heading) then
      let b := b.impliedEnds []
      .done (b.popThrough fun id => (b.element id).1 == .html && b.role id == .heading)
    else .done b
  | .anchor | .formatting | .nobr => .done (b.closeFormatting name)
  | .scoped =>
    .done (if b.hasInScope .standard name then (b.closeNamed name).clearFormatting else b)
  | _ =>
    if name == lit "br" then .done (b.insertFormatted ⟨name, [], false⟩).pop.noFrameset
    else .done (b.closeAny name)

/-- Text in the content. -/
def textInBody (t : Text) (b : Builder) : Builder :=
  if t.isEmpty then b
  else
    let b := b.restoreFormatting.insertText t
    if isWhite t then b else b.noFrameset

/-- The end of the source inside a template ends the template. -/
def endTemplate (b : Builder) : Step :=
  if b.inTemplate then
    let b := (b.popNamed (lit "template")).clearFormatting
    .again { b with templateModes := b.templateModes.drop 1 }.resetMode
  else .done b

/-- A token in the content. -/
def inBodyStep (t : Token) (b : Builder) : Step :=
  match t with
  | .text s => .done (b.textInBody s)
  | .null => .done b
  | .comment s => .done (b.insertComment s)
  | .doctype _ => .done b
  | .opening tag => b.openInBody tag
  | .closing tag => b.closeInBody tag
  | .eof => if b.templateModes.isEmpty then .done b else b.endTemplate

end WikiPress.Html.Builder
