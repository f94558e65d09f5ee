import WikiPress.Marks
import WikiPress.Page.Links
import WikiPress.Pattern.Reader
import WikiPress.Pattern.Replacement

/-!
# Page/Options — how pages are rendered

The options of a renderer, and what they do to the plain texts of a page: characters written by
their code point are decoded, quotes become the quotes of the wiki, and the replacers are applied in
order.
-/

namespace WikiPress.Page

/-- A pattern and what takes the place of its matches. -/
structure Replacer where
  pattern : Pattern
  replacement : Text
deriving DecidableEq, Repr

namespace Replacer

/-- The replacer with a written pattern, if that is one. -/
def compile? (rule : Text × Text) : Option Replacer :=
  (Pattern.parse? rule.1).map fun pattern => ⟨pattern, rule.2⟩

/-- The replacers among rules, in order; rules whose pattern is none are left out. -/
def compileAll (rules : List (Text × Text)) : List Replacer := rules.filterMap compile?

/-- A text with the matches of a replacer replaced. -/
def apply (r : Replacer) (t : Text) : Text := r.pattern.replaceAll r.replacement t

/-- A text with the matches of replacers replaced, one replacer after another. -/
def applyAll (replacers : List Replacer) (t : Text) : Text :=
  replacers.foldl (fun t r => r.apply t) t

end Replacer

/-- The quotes of a wiki. -/
structure Quotes where
  openDouble : Char
  closeDouble : Char
  openSingle : Char
  closeSingle : Char
deriving DecidableEq, Repr

namespace Quotes

/-- The quotes that the first four characters of a text are. -/
def ofText? : Text → Option Quotes
  | a :: b :: c :: d :: _ => some ⟨a, b, c, d⟩
  | _ => none

/-- The quotes in their order. -/
def toList (q : Quotes) : List Char := [q.openDouble, q.closeDouble, q.openSingle, q.closeSingle]

/-- The quote of the wiki for a typographic quote. -/
def mapChar (q : Quotes) (c : Char) : Char :=
  if c == '“' then q.openDouble
  else if c == '”' then q.closeDouble
  else if c == '‘' then q.openSingle
  else if c == '’' then q.closeSingle
  else c

end Quotes

/-- The options of a renderer. -/
structure Options where
  /-- The quotes of the wiki; with fewer than four characters quotes stay as they are. -/
  smartQuotes : Text := lit "“”‘’"
  /-- What is replaced in plain texts, in order. -/
  replacers : List Replacer := []
  /-- The path of the wiki on its host. -/
  basePath : Text := lit "/"
  /-- The document that is its home. -/
  homePath : Text := lit "/index.md"
  /-- The label above footnotes. -/
  footnotesLabel : Text := lit "Footnotes"
  /-- Whether line ends in the source are line breaks. -/
  hardBreaks : Bool := true
  /-- Whether bare addresses become links. -/
  autolink : Bool := true
deriving DecidableEq, Repr

namespace Options

/-- The quotes of the wiki, if there are enough of them. -/
def quotes? (o : Options) : Option Quotes := Quotes.ofText? o.smartQuotes

/-- Where the wiki is deployed. -/
def deployment (o : Options) : Deployment := ⟨o.basePath, o.homePath⟩

/-- A plain text as a page shows it. -/
def reword (o : Options) (t : Text) : Text :=
  let t := decodeEscapes t
  let t := match o.quotes? with
    | some q => t.map q.mapChar
    | none => t
  Replacer.applyAll o.replacers t

end Options

end WikiPress.Page
