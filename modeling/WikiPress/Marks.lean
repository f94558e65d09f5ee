import WikiPress.Text.Split

/-!
# Marks — the lines and escapes a page writes by hand

A page may hold slice marks, which are only for transclusion, and a line that asks for the table of
contents.  `applyMarks` removes the former and turns the first of the latter into the element that
the contents are written to.  `decodeEscapes` replaces characters written by their code point.
-/

namespace WikiPress

/-- The line between two slices of a snippet. -/
def sliceMark : Text := lit "--8<--"

/-- The line that asks for the table of contents. -/
def contentsMark : Text := lit "[toc]"

/-- The element that holds the table of contents. -/
def contentsPlace : Text := lit "<div id=\"toc\"></div>\n"

/-- Replace the marks of the lines; `placed` tells whether the table of contents has its place. -/
def markLines : (placed : Bool) → List Text → Text
  | _, [] => []
  | placed, line :: rest =>
    let content := Text.trim line
    if content == sliceMark then markLines placed rest
    else if Text.sameLetters content contentsMark then
      (if placed then [] else contentsPlace) ++ markLines true rest
    else line ++ markLines placed rest

/-- **A page without its marks**: slice marks are dropped, the first line that asks for the table of
contents becomes its place, and further ones are dropped. -/
def applyMarks (page : Text) : Text := markLines false (Text.completeLines page)

/-! ## Characters written by their code point -/

/-- The hexadecimal digits that a text begins with, at most `n`. -/
def hexRun : (n : Nat) → Text → Text
  | 0, _ => []
  | _ + 1, [] => []
  | n + 1, c :: t => if (Text.hexDigit? c).isSome then c :: hexRun n t else []

/-- The number that hexadecimal digits write. -/
def hexValue (digits : Text) : Nat :=
  digits.foldl (fun n c => n * 16 + (Text.hexDigit? c).getD 0) 0

/-- The character with a code point, if there is one. -/
def charOfCode? (n : Nat) : Option Char :=
  if h : n.isValidChar then some (Char.ofNatAux n h) else none

/-- The digits of the escape that a text begins with: four after `\u`, four to six after `u+`, in
any letter case. -/
def escapeDigits? : Text → Option Text
  | '\\' :: u :: t =>
    if u == 'u' || u == 'U' then
      let digits := hexRun 4 t
      if digits.length == 4 then some digits else none
    else none
  | u :: '+' :: t =>
    if u == 'u' || u == 'U' then
      let digits := hexRun 6 t
      if 4 ≤ digits.length then some digits else none
    else none
  | _ => none

/-- Decode a text after skipping `n` characters that belong to an escape already read. -/
def decodeFrom : (n : Nat) → Text → Text
  | _, [] => []
  | n + 1, _ :: t => decodeFrom n t
  | 0, c :: t =>
    match escapeDigits? (c :: t) with
    | none => c :: decodeFrom 0 t
    | some digits =>
      let size := digits.length + 2
      (match charOfCode? (hexValue digits) with
        | some d => [d]
        | none => (c :: t).take size) ++ decodeFrom (size - 1) t

/-- **A text with its escapes decoded.**  An escape that names no character stays as written. -/
def decodeEscapes (t : Text) : Text := decodeFrom 0 t

end WikiPress
