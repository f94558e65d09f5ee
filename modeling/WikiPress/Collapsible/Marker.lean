import WikiPress.Text.Split

/-!
# Collapsible/Marker — what the opening line of a collapsible block asks for

After its colons an opening line holds blanks, then optionally the word `open`, a list of classes
that begins with a dot, and the summary.  Of several readings the first one counts, with the word
and the classes taken where they can be, and the classes as short as possible.
-/

namespace WikiPress.Collapsible

/-- The opening line of a collapsible block, read. -/
structure Marker where
  /-- Whether the block is shown expanded. -/
  isOpen : Bool
  /-- The classes of the element. -/
  classes : List Text
  /-- The summary in Markdown; none when it is suppressed. -/
  summary : Option Text
deriving DecidableEq, Repr

/-- The class that marks a block without a head of its own. -/
def emptyClass : Text := lit "empty"

/-- The remainder of a marker as a summary: it has to end with its line. -/
def summary? (t : Text) : Option Text := if List.elem '\n' t then none else some t

/-- The shortest class list that is followed by blanks and a summary; `seen` holds the characters
passed over, the last first. -/
def classList? : (seen : Text) → Text → Option (Text × Text)
  | _, [] => none
  | seen, c :: t =>
    match (if Text.isBlank c then summary? (Text.trimStart t) else none) with
    | some summary => some (seen.reverse, summary)
    | none => if c == '\n' then none else classList? (c :: seen) t

/-- The class list, if one can be read, and the summary. -/
def classesAndSummary? (t : Text) : Option (Option Text × Text) :=
  let classes := match t with
    | '.' :: rest => classList? [] rest
    | _ => none
  match classes with
  | some (classes, summary) => some (some classes, summary)
  | none => (summary? t).map (none, ·)

/-- What follows the word `open` and its blanks. -/
def afterOpen? (t : Text) : Option Text :=
  match Text.strip? (lit "open") t with
  | some (c :: rest) => if Text.isBlank c then some (Text.trimStart rest) else none
  | _ => none

/-- The parts of a marker: the word `open`, the class list and the summary. -/
def parts? (t : Text) : Option (Bool × Option Text × Text) :=
  match t with
  | [] => none
  | c :: rest =>
    if Text.isBlank c then
      let body := Text.trimStart rest
      match afterOpen? body with
      | some after => (classesAndSummary? after).map (true, ·)
      | none => (classesAndSummary? body).map (false, ·)
    else none

/-- **Read the text after the colons of an opening line.**  A text that cannot be read gives an
expanded block of class `empty`, and a class list with `empty` in it an expanded block; neither has
a summary.  The summary `\` suppresses the summary. -/
def Marker.read (t : Text) : Marker :=
  match parts? t with
  | none => ⟨true, [emptyClass], none⟩
  | some (isOpen, classes, summary) =>
    let classes := match classes with
      | some list => Text.distinctItems (Text.splitOn '.' list)
      | none => []
    if classes.contains emptyClass then ⟨true, classes, none⟩
    else ⟨isOpen, classes, if summary == ['\\'] then none else some summary⟩

end WikiPress.Collapsible
