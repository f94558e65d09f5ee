import WikiPress.Pattern.Matching
import WikiPress.Text.Number

/-!
# Pattern/Replacement — what takes the place of a match

A replacement is text in which a dollar sign calls for what a group has matched, by number or by
name; a group that does not exist or did not take part is empty.  A doubled dollar sign is one, and
a dollar sign before anything else is itself.
-/

namespace WikiPress.Pattern

/-- A part of a replacement. -/
inductive Piece
  /-- A character for itself. -/
  | char (c : Char)
  /-- What the group with a number has matched. -/
  | numbered (index : Nat)
  /-- What the group with a name has matched. -/
  | named (name : Text)
deriving DecidableEq, Repr

/-- The group that a reference calls for. -/
def Piece.ofReference (name : Text) : Piece :=
  match Text.unsigned? Text.bound64 name with
  | some index => numbered index
  | none => named name

/-- The parts of a replacement, read within `fuel` steps. -/
def piecesWithin : (fuel : Nat) → Text → List Piece
  | 0, _ => []
  | _ + 1, [] => []
  | fuel + 1, '$' :: t => match t with
    | '$' :: rest => .char '$' :: piecesWithin fuel rest
    | c :: r =>
      if c == Char.ofNat 123 then
        match r.dropWhile (fun d => d != Char.ofNat 125) with
        | [] => .char '$' :: piecesWithin fuel t
        | _ :: rest =>
          .ofReference (r.takeWhile fun d => d != Char.ofNat 125) :: piecesWithin fuel rest
      else if Text.isLetterDigit c then
        .ofReference (t.takeWhile Text.isLetterDigit) ::
          piecesWithin fuel (t.dropWhile Text.isLetterDigit)
      else .char '$' :: piecesWithin fuel t
    | [] => [.char '$']
  | fuel + 1, c :: t => .char c :: piecesWithin fuel t

/-- The parts of a replacement. -/
def pieces (replacement : Text) : List Piece := piecesWithin replacement.length replacement

/-- What a part of a replacement stands for in a match. -/
def Piece.expand (names : List (Text × Nat)) (t : Text) (m : Match) : Piece → Text
  | char c => [c]
  | numbered index => (m.group? t index).getD []
  | named name => ((names.lookup name).bind (m.group? t)).getD []

/-- A text with matches replaced; `position` is where the rest of the text begins. -/
def replaceMatches (expand : Match → Text) : (position : Nat) → Text → List Match → Text
  | _, t, [] => t
  | position, t, m :: rest =>
    t.take (m.first - position) ++ expand m
      ++ replaceMatches expand m.past (t.drop (m.past - position)) rest

/-- **A text with every match of a pattern replaced.** -/
def replaceAll (p : Pattern) (replacement t : Text) : Text :=
  let parts := pieces replacement
  replaceMatches (fun m => parts.flatMap (Piece.expand p.names t m)) 0 t (p.allMatches t)

/-- Whether a pattern matches somewhere in a text. -/
def matchesIn (p : Pattern) (t : Text) : Bool := (p.program.find? t 0).isSome

/-- A pattern that matches nowhere: a character that is neither blank nor anything else. -/
def nowhere : Pattern :=
  ⟨lit "[^\\s\\S]", .one (.compl (.union (.property .blank) (.compl (.property .blank)))), []⟩

end WikiPress.Pattern
