import WikiPress.Text.Basic

/-!
# Html/Role — how the elements of HTML behave while a page is read

HTML repairs faulty markup by rules that depend on the kind of each element.  Elements that follow
the same rules share a role; an element is told from others of its role by its name.
-/

namespace WikiPress.Html

/-- The part an element plays in the construction of a page. -/
inductive Role
  | html
  | head
  | body
  | frameset
  | frame
  | noframes
  /-- An empty element of the head. -/
  | metadata
  | title
  | style
  | script
  | noscript
  | template
  /-- An element that ends a paragraph. -/
  | block
  | paragraph
  | heading
  | preformatted
  | form
  | listItem
  | definition
  | plaintext
  | button
  | anchor
  | nobr
  /-- An element for the look of text, which is restored in the next block. -/
  | formatting
  /-- An element with a scope of its own. -/
  | scoped
  | table
  | caption
  | columnGroup
  | column
  /-- The head, body or foot of a table. -/
  | tableSection
  | row
  | cell
  /-- An empty element in a line of text. -/
  | lineBreak
  | input
  /-- An empty element inside a media element. -/
  | media
  | rule
  | image
  | textarea
  | xmp
  | iframe
  | noembed
  | select
  | optionGroup
  | option
  | rubyBase
  | rubyText
  | math
  | svg
  | ordinary
deriving DecidableEq, Repr

namespace Role

/-- The names of the elements that are not ordinary, by role. -/
def members : List (Role × List String) :=
  [(.html, ["html"]), (.head, ["head"]), (.body, ["body"]), (.frameset, ["frameset"]),
   (.frame, ["frame"]), (.noframes, ["noframes"]),
   (.metadata, ["base", "basefont", "bgsound", "link", "meta"]), (.title, ["title"]),
   (.style, ["style"]), (.script, ["script"]), (.noscript, ["noscript"]), (.template, ["template"]),
   (.block, ["address", "article", "aside", "blockquote", "center", "details", "dialog", "dir", "div",
     "dl", "fieldset", "figcaption", "figure", "footer", "header", "hgroup", "main", "menu", "nav",
     "ol", "search", "section", "summary", "ul"]),
   (.paragraph, ["p"]), (.heading, ["h1", "h2", "h3", "h4", "h5", "h6"]),
   (.preformatted, ["pre", "listing"]), (.form, ["form"]), (.listItem, ["li"]),
   (.definition, ["dd", "dt"]), (.plaintext, ["plaintext"]), (.button, ["button"]),
   (.anchor, ["a"]), (.nobr, ["nobr"]),
   (.formatting, ["b", "big", "code", "em", "font", "i", "s", "small", "strike", "strong", "tt",
     "u"]),
   (.scoped, ["applet", "marquee", "object"]), (.table, ["table"]), (.caption, ["caption"]),
   (.columnGroup, ["colgroup"]), (.column, ["col"]), (.tableSection, ["tbody", "tfoot", "thead"]),
   (.row, ["tr"]), (.cell, ["td", "th"]),
   (.lineBreak, ["area", "br", "embed", "img", "keygen", "wbr"]), (.input, ["input"]),
   (.media, ["param", "source", "track"]), (.rule, ["hr"]), (.image, ["image"]),
   (.textarea, ["textarea"]), (.xmp, ["xmp"]), (.iframe, ["iframe"]), (.noembed, ["noembed"]),
   (.select, ["select"]), (.optionGroup, ["optgroup"]), (.option, ["option"]),
   (.rubyBase, ["rb", "rtc"]), (.rubyText, ["rp", "rt"]), (.math, ["math"]), (.svg, ["svg"])]

/-- The role of the element with a name. -/
def ofName (name : Text) : Role :=
  match members.find? fun (_, names) => names.any fun other => lit other == name with
  | some (role, _) => role
  | none => .ordinary

/-- Whether an element with this role is a part of the structure of the page, which unmatched tags do
not reach beyond.  Dialogs are not. -/
def isSpecial (name : Text) : Role → Bool
  | .anchor | .nobr | .formatting | .image | .optionGroup | .option | .rubyBase | .rubyText | .math
  | .svg | .ordinary => false
  | .block => name != lit "dialog"
  | _ => true

end Role

end WikiPress.Html
