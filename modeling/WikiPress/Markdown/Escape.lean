import WikiPress.Marks
import WikiPress.Text.NamedCharacter
import WikiPress.Text.Punctuation
import WikiPress.Text.Case

/-!
# Markdown/Escape — characters that are not written as themselves

A character may be written by its number or its name between an ampersand and a semicolon, and a
backslash takes the meaning from the punctuation character after it.  Link targets, titles, labels
and info strings are cleaned of both.
-/

namespace WikiPress.Markdown

/-- The white space of Markdown, which is that of ASCII. -/
def isSpace (c : Char) : Bool := c == ' ' || ('\t' ≤ c && c ≤ '\r')

/-- A text without the white space around it. -/
def trimSpace (t : Text) : Text := Text.dropEndWhile isSpace (t.dropWhile isSpace)

/-- The character with a number in a reference.  Numbers without a character, zero, and the first
private-use character stand for the replacement character. -/
def referencedChar (n : Nat) : Char :=
  if n == 0 || n == 0xE000 then '\uFFFD' else (charOfCode? n).getD '\uFFFD'

/-- The character of a reference by number that follows `&#`, with what follows its semicolon. -/
def numericReference? (t : Text) : Option (Text × Text) :=
  let (digits, value, limit, rest) := match t with
    | x :: r =>
      if x == 'x' || x == 'X' then
        let digits := r.takeWhile fun c => (Text.hexDigit? c).isSome
        (digits, hexValue digits, 6, r.drop digits.length)
      else
        let digits := t.takeWhile Text.isDigit
        (digits, digits.foldl (fun n c => n * 10 + Text.digitValue c) 0, 7, t.drop digits.length)
    | [] => ([], 0, 0, [])
  match rest with
  | ';' :: after =>
    if digits.isEmpty || limit < digits.length then none else some ([referencedChar value], after)
  | _ => none

/-- The characters of a reference by name that follows `&`, with what follows its semicolon. -/
def namedReference? (t : Text) : Option (Text × Text) :=
  let name := t.takeWhile fun c => c != ';' && c != ' '
  match t.drop name.length with
  | ';' :: after => if name.length < 32 then (Text.named? name).map (·, after) else none
  | _ => none

/-- **The characters of a reference** that follows `&`, with what follows it. -/
def reference? (t : Text) : Option (Text × Text) :=
  match t with
  | '#' :: r => numericReference? r
  | _ => namedReference? t

/-- Replace the references of a text, which has at most `fuel` characters. -/
def resolveWithin : (fuel : Nat) → Text → Text
  | 0, t => t
  | _, [] => []
  | fuel + 1, '&' :: t =>
    match reference? t with
    | some (chars, rest) => chars ++ resolveWithin fuel rest
    | none => '&' :: resolveWithin fuel t
  | fuel + 1, c :: t => c :: resolveWithin fuel t

/-- A text with its character references replaced. -/
def resolveReferences (t : Text) : Text := resolveWithin t.length t

/-- Whether a text begins with an ASCII punctuation character. -/
def beginsPunctuated (t : Text) : Bool :=
  match t with
  | c :: _ => Text.isAsciiPunctuation c
  | [] => false

/-- Drop the backslashes that escape punctuation; `escaped` tells whether the next character is. -/
def dropBackslashesAfter : (escaped : Bool) → Text → Text
  | _, [] => []
  | escaped, c :: t =>
    if !escaped && c == '\\' && beginsPunctuated t then dropBackslashesAfter true t
    else c :: dropBackslashesAfter false t

/-- A text without the backslashes that escape punctuation. -/
def dropBackslashes (t : Text) : Text := dropBackslashesAfter false t

/-- A written target as a URL. -/
def cleanUrl (t : Text) : Text := dropBackslashes (resolveReferences (trimSpace t))

/-- A written title, its delimiters included, as a text. -/
def cleanTitle (t : Text) : Text :=
  let inner := match t, t.getLast? with
    | first :: rest, some last =>
      if !rest.isEmpty
          && ((first == '\'' && last == '\'') || (first == '(' && last == ')')
            || (first == '"' && last == '"')) then rest.dropLast
      else t
    | _, _ => t
  dropBackslashes (resolveReferences inner)

/-- A written info string as a text. -/
def cleanInfo (t : Text) : Text := dropBackslashes (trimSpace (resolveReferences t))

/-- Runs of white space as single spaces. -/
def collapseSpace : (after : Bool) → Text → Text
  | _, [] => []
  | after, c :: t =>
    if Text.isBlank c then (if after then [] else [' ']) ++ collapseSpace true t
    else c :: collapseSpace false t

/-- A label as it is shown: trimmed, with single spaces. -/
def shownLabel (t : Text) : Text := collapseSpace false (trimSpace t)

/-- A label as it is compared: without regard to case. -/
def labelKey (t : Text) : Text := Text.foldCase (shownLabel t)

end WikiPress.Markdown
