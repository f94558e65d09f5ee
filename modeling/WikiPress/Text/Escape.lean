import WikiPress.Text.Basic

/-!
# Text/Escape — text inside HTML

Text and attribute values are embedded in HTML with their markup characters written as character
references.
-/

namespace WikiPress.Text

/-- The reference for a markup character in element content. -/
def escapeChar (c : Char) : Text :=
  match c with
  | '&' => lit "&amp;"
  | '<' => lit "&lt;"
  | '>' => lit "&gt;"
  | _ => [c]

/-- A text as element content: `&`, `<` and `>` are written as references. -/
def escape (t : Text) : Text := t.flatMap escapeChar

/-- A text as the value of a double-quoted attribute: the double quote is escaped as well. -/
def escapeAttribute (t : Text) : Text :=
  t.flatMap fun c => if c == '"' then lit "&quot;" else escapeChar c

end WikiPress.Text
